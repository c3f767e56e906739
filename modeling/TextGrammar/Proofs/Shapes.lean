import TextGrammar.Proofs.Justification
import TextGrammar.Proofs.RecordWrites
import TextGrammar.Terminal
/-!
# Shapes

What a match yields has a shape that can be told from the grammar. A record takes every value but
not itself, so attributes whose parts never yield the object being built are never refused.
-/
namespace TextGrammar

inductive Shape where
  | text
  | sequence
  | object
  | target
deriving DecidableEq, Repr

def Yield.shape : Yield → Shape
  | .value (.text _) => .text
  | .value (.sequence _) => .sequence
  | .value (.object ..) => .object
  | .target => .target

namespace Node

mutual
/-- The shapes of what matches of the node can yield. -/
def shapes : Node → List Shape
  | .terminal _ => [.text]
  | .nested _ | .rule _ => [.object]
  | .sequence _ | .attribute _ _ => [.target]
  | .collect _ | .ignore _ | .repetition _ _ => [.sequence]
  | .alternation parts => allShapes parts
  | .optional part => .sequence :: part.shapes

def allShapes : List Node → List Shape
  | [] => []
  | part :: parts => part.shapes ++ allShapes parts
end

end Node

def Task.shapes : Task → List Shape
  | .node grammar => grammar.shapes
  | .first _ untried => Node.allShapes untried
  | .all .. | .loop .. => [.sequence]
  | .enter _ => [.object]

def YieldsIn (shapes : List Shape) : Outcome Yield → Prop
  | .ok (yield, _) => yield.shape ∈ shapes
  | .error _ => True

theorem YieldsIn.mono {shapes shapes' : List Shape} {outcome : Outcome Yield}
    (h : YieldsIn shapes outcome) (hsubset : shapes ⊆ shapes') : YieldsIn shapes' outcome := by
  rcases outcome with failure | ⟨yield, next⟩
  · trivial
  · exact hsubset h

theorem matchTerminal_yieldsIn [Engine] (pattern : String) (cursor : Cursor) :
    YieldsIn [.text] (matchTerminal pattern cursor) := by
  obtain ⟨_, h⟩ | ⟨regex, _, ⟨_, h⟩ | ⟨length, _, h⟩⟩ := matchTerminal_cases pattern cursor
  · rw [h]
    trivial
  · rw [h]
    trivial
  · rw [h]
    exact List.mem_singleton_self _

theorem finishLoop_yieldsIn (allowZero : Bool) (start : Nat) (values : List Value) (bound : Bool)
    (cursor : Cursor) : YieldsIn [.sequence] (finishLoop allowZero start values bound cursor) := by
  rcases finishLoop_cases allowZero start values bound cursor with h | h
  · rw [h]
    trivial
  · rw [h]
    exact List.mem_singleton_self _

section Refusals

variable [Engine] [Targets]

theorem Evaluates.yieldsIn {m : Matcher} {depth : Nat} {task : Task} {object after : Object}
    {cursor : Cursor} {outcome : Outcome Yield}
    (h : Evaluates m depth task object cursor outcome after) : YieldsIn task.shapes outcome := by
  induction h with
  | terminal pattern => exact matchTerminal_yieldsIn pattern _
  | nested _ ih | rule _ ih | collect _ ih | alternation _ ih | repetition _ ih | allCons _ _ _ ih
  | loopStep _ _ _ _ _ ih => exact ih
  | sequenceFail | attributeRefused | attributeFail | ignoreFail | optionalFail | allFail | firstNil
  | firstFail | loopStuck | loopFail | enterUnresolved | enterTooDeep | enterFail => trivial
  | sequence | attributeBound | ignore | allNil | enter => exact List.mem_singleton_self _
  | optional _ ih => exact ih.mono (List.subset_cons_self _ _)
  | optionalSkip => exact List.mem_cons_self
  | firstOk _ ih => exact ih.mono (List.subset_append_left _ _)
  | firstNext _ _ _ _ ih => exact ih.mono (List.subset_append_right _ _)
  | loopEnd | loopStop => exact finishLoop_yieldsIn _ _ _ _ _

/-! ## Refused bindings -/

/-- A binding of a record of the kind to itself makes a match of the grammar into an object fail.
Either the record is the one that the match builds, and an attribute of the grammar has its part
yield it; or the grammar follows a rule, whose match into a record of its own fails so. -/
inductive Matcher.SelfBinds (m : Matcher) (kind name : String) :
    (depth : Nat) → (grammar : Node) → Object → Cursor → Prop
  | here {depth : Nat} {grammar part : Node} {initial attributes : NameMap Value}
      {cursor place next : Cursor} {after : Object} :
    .attribute name part ∈ grammar.subtrees → cursor.Reaches place →
    part.run (m.enter depth) ⟨kind, .record, attributes⟩ place = (.ok (.target, next), after) →
    SelfBinds m kind name depth grammar ⟨kind, .record, initial⟩ cursor
  | follows {depth : Nat} {grammar body : Node} {object left : Object} {cursor place : Cursor}
      {rule : String} :
    .rule rule ∈ grammar.subtrees → m.rules.find? rule = some body → cursor.Reaches place →
    body.run (m.enter depth) (Object.record rule) place =
      (.error (.refusedBinding kind name .selfReference), left) →
    SelfBinds m kind name depth body (Object.record rule) place →
    SelfBinds m kind name (depth + 1) grammar object cursor

def EndsSelfBound (m : Matcher) (depth : Nat) (grammar : Node) (object : Object) (cursor : Cursor) :
    Outcome Yield → Prop
  | .error (.refusedBinding kind name reason) =>
    reason = .selfReference ∧ m.SelfBinds kind name depth grammar object cursor
  | _ => True

section

variable {m : Matcher} {depth : Nat} {grammar : Node} {object : Object} {cursor : Cursor}

theorem matchTerminal_endsSelfBound (pattern : String) (place : Cursor) :
    EndsSelfBound m depth grammar object cursor (matchTerminal pattern place) := by
  obtain ⟨_, h⟩ | ⟨regex, _, ⟨_, h⟩ | ⟨length, _, h⟩⟩ := matchTerminal_cases pattern place
  all_goals
    rw [h]
    trivial

theorem finishLoop_endsSelfBound (allowZero : Bool) (start : Nat) (values : List Value)
    (bound : Bool) (place : Cursor) :
    EndsSelfBound m depth grammar object cursor
      (finishLoop allowZero start values bound place) := by
  rcases finishLoop_cases allowZero start values bound place with h | h
  all_goals
    rw [h]
    trivial

/-- A binding that the record of a rule refuses ends the match of the rule. -/
theorem EndsSelfBound.follows {rule : String} {body : Node} {place : Cursor} {failure : Failure}
    {left : Object} (hrule : .rule rule ∈ grammar.subtrees)
    (hfind : m.rules.find? rule = some body) (hplace : cursor.Reaches place)
    (hrun : body.run (m.enter depth) (Object.record rule) place = (.error failure, left))
    (h : EndsSelfBound m depth body (Object.record rule) place (.error failure)) :
    EndsSelfBound m (depth + 1) grammar object cursor (.error failure) := by
  cases failure with
  | refusedBinding kind name reason =>
    obtain ⟨rfl, hbinds⟩ := h
    exact ⟨rfl, .follows hrule hfind hplace hrun hbinds⟩
  | _ => trivial

theorem Evaluates.exists_after_eq {task : Task} {kind : String} {attributes : NameMap Value}
    {outcome : Outcome Yield} {after : Object}
    (h : Evaluates m depth task ⟨kind, .record, attributes⟩ cursor outcome after) :
    ∃ attributes, after = ⟨kind, .record, attributes⟩ := by
  obtain ⟨writes, _, hafter⟩ := h.factors kind attributes rfl
  exact ⟨_, hafter⟩

end

/-- The task is part of a match of `grammar` that started at `start`, on what is now `attributes` in
its record. Where a rule is entered, another match starts. -/
theorem Evaluates.endsSelfBound {m : Matcher} {root : Node} {depth : Nat} {task : Task}
    {object after : Object} {cursor : Cursor} {outcome : Outcome Yield}
    (hrules : ∀ reference, m.Reachable root reference → ∃ name, reference = .rule name)
    (h : Evaluates m depth task object cursor outcome after) :
    ∀ {grammar : Node} {start : Cursor} {kind : String} {initial attributes : NameMap Value},
      m.Occurs root grammar → (∀ node ∈ task.nodes, node ∈ grammar.subtrees) →
      start.Reaches cursor → object = ⟨kind, .record, attributes⟩ →
        EndsSelfBound m depth grammar ⟨kind, .record, initial⟩ start outcome := by
  have hchildren {grammar node : Node}
      (h : ∀ part ∈ (Task.node node).nodes, part ∈ grammar.subtrees) :
      ∀ part ∈ node.children, part ∈ grammar.subtrees := by
    intro part hpart
    have hnode := h node (List.mem_singleton_self _)
    exact grammar.subtrees_trans hnode (Node.subtrees_children hpart part.mem_subtrees_self)
  induction h with
  | terminal pattern =>
    intros
    exact matchTerminal_endsSelfBound pattern _
  | nested _ ih | rule _ ih =>
    intro _ _ _ _ _ hoccurs hnodes hstart hobject
    exact ih hoccurs hnodes hstart hobject
  | sequence | attributeBound | ignore | optional | optionalSkip | allNil | firstNil | firstOk
  | loopStuck | enterTooDeep | enter =>
    intros
    trivial
  | sequenceFail _ ih | collect _ ih | alternation _ ih | attributeFail _ ih | ignoreFail _ ih
  | optionalFail _ _ ih | repetition _ ih =>
    intro _ _ _ _ _ hoccurs hnodes hstart hobject
    exact ih hoccurs (hchildren hnodes) hstart hobject
  | attributeRefused hpart hbind =>
    intro grammar start kind initial attributes hoccurs hnodes hstart hobject
    subst hobject
    obtain ⟨left, rfl⟩ := hpart.exists_after_eq
    obtain ⟨rfl, rfl, _⟩ := bindYield_record_eq_error hbind
    have hattribute := hnodes _ (List.mem_singleton_self _)
    exact ⟨rfl, .here hattribute hstart (evaluates_iff_run.mp hpart)⟩
  | allCons hpart _ _ ih =>
    intro _ _ _ _ _ hoccurs hnodes hstart hobject
    subst hobject
    obtain ⟨left, hbetween⟩ := hpart.exists_after_eq
    exact ih hoccurs (List.forall_mem_cons.mp hnodes).2 (hstart.trans hpart.reaches) hbetween
  | firstNext hpart _ _ _ ih =>
    intro _ _ _ _ _ hoccurs hnodes hstart hobject
    subst hobject
    obtain ⟨left, hbetween⟩ := hpart.exists_after_eq
    exact ih hoccurs (List.forall_mem_cons.mp hnodes).2 hstart hbetween
  | loopStep _ hpart _ _ _ ih =>
    intro _ _ _ _ _ hoccurs hnodes hstart hobject
    subst hobject
    obtain ⟨left, hbetween⟩ := hpart.exists_after_eq
    exact ih hoccurs hnodes (hstart.trans hpart.reaches) hbetween
  | allFail _ ih | firstFail _ _ ih =>
    intro _ _ _ _ _ hoccurs hnodes hstart hobject
    have hpart := (List.forall_mem_cons.mp hnodes).1
    exact ih hoccurs (List.forall_mem_singleton.mpr hpart) hstart hobject
  | loopEnd | loopStop =>
    intros
    exact finishLoop_endsSelfBound _ _ _ _ _
  | loopFail _ _ _ ih =>
    intro _ _ _ _ _ hoccurs hnodes hstart hobject
    exact ih hoccurs hnodes hstart hobject
  | enterUnresolved hresolve =>
    intros
    obtain ⟨name, _, _, rfl⟩ := Matcher.resolve_eq_error hresolve
    trivial
  | @enterFail _ _ _ reference body _ _ _ hresolve hbody ih =>
    intro grammar start kind initial attributes hoccurs hnodes hstart _
    cases reference with
    | rule name =>
      have hrule := hnodes (.rule name) (List.mem_singleton_self _)
      have hfollowed := (hoccurs.subtree hrule).follow rfl hresolve
      obtain ⟨hfind, rfl⟩ := Matcher.resolve_rule_eq_ok hresolve
      apply EndsSelfBound.follows hrule hfind hstart (evaluates_iff_run.mp hbody)
      exact ih hfollowed (List.forall_mem_singleton.mpr body.mem_subtrees_self) (.refl _) rfl
    | type name =>
      have htype := hoccurs.subtree (hnodes (.nested name) (List.mem_singleton_self _))
      obtain ⟨_, hrule⟩ := hrules _ (htype.reachable rfl)
      cases hrule

namespace Matcher

variable {m : Matcher} {node : Node} {cursor : Cursor}

theorem shape_mem_shapes {depth : Nat} {object after : Object} {yield : Yield} {next : Cursor}
    (h : node.run (m.enter depth) object cursor = (.ok (yield, next), after)) :
    yield.shape ∈ node.shapes :=
  (evaluates_iff_run.mpr h).yieldsIn

theorem SelfBinds.target_mem_shapes {root grammar : Node} {kind name : String} {depth : Nat}
    {object : Object} (h : m.SelfBinds kind name depth grammar object cursor)
    (hoccurs : m.Occurs root grammar) :
    ∃ part, m.Occurs root (.attribute name part) ∧ .target ∈ part.shapes := by
  induction h with
  | @here _ _ part _ _ _ _ _ _ hattribute _ hrun =>
    exact ⟨part, hoccurs.subtree hattribute, shape_mem_shapes hrun⟩
  | @follows _ _ body _ _ _ _ rule hrule hfind _ _ _ ih =>
    have hresolve : m.resolve (.rule rule) = .ok (body, Object.record rule) := by
      simp only [resolve, hfind]
    exact ih ((hoccurs.subtree hrule).follow rfl hresolve)

theorem selfBinds_of_refused {kind refusing name : String} {attributes : NameMap Value}
    {reason : BindingError}
    (hrules : ∀ reference, m.Reachable node reference → ∃ name, reference = .rule name)
    (h : (m.matchNode node ⟨kind, .record, attributes⟩ cursor).1 =
      .error (.refusedBinding refusing name reason)) :
    reason = .selfReference ∧
      m.SelfBinds refusing name m.maxDepth node ⟨kind, .record, attributes⟩ cursor := by
  have hevaluates := evaluates_matchNode m node ⟨kind, .record, attributes⟩ cursor
  rw [h] at hevaluates
  exact hevaluates.endsSelfBound hrules (.self m node)
    (List.forall_mem_singleton.mpr node.mem_subtrees_self) (.refl cursor) rfl

/-- What a match yields has a shape that the grammar foresees. So, in grammars that refer to rules
only, a record refuses no binding if no attribute has a part that may yield the object being built.
A binding that is refused after all is one of a record to itself, and the kind reported is that of
the record which the match builds, of the node or of a rule, to whose grammar the attribute
belongs. -/
theorem shapes_rule_out_refusals (m : Matcher) (node : Node) (cursor : Cursor) :
    (∀ object yield next after, m.matchNode node object cursor = (.ok (yield, next), after) →
      yield.shape ∈ node.shapes) ∧
    ((∀ reference, m.Reachable node reference → ∃ name, reference = .rule name) →
      ∀ kind attributes, let record : Object := ⟨kind, .record, attributes⟩
      ((∀ name part, m.Occurs node (.attribute name part) → .target ∉ part.shapes) →
        ∀ refusing name reason, (m.matchNode node record cursor).1 ≠
          .error (.refusedBinding refusing name reason)) ∧
      ∀ refusing name reason,
        (m.matchNode node record cursor).1 = .error (.refusedBinding refusing name reason) →
          reason = .selfReference ∧
            m.SelfBinds refusing name m.maxDepth node record cursor) := by
  refine ⟨fun _ _ _ _ => shape_mem_shapes, ?_⟩
  intro hrules kind attributes record
  refine ⟨?_, fun _ _ _ => selfBinds_of_refused hrules⟩
  intro hshapes refusing name reason hrefused
  obtain ⟨_, hbinds⟩ := selfBinds_of_refused hrules hrefused
  obtain ⟨part, hoccurs, htarget⟩ := hbinds.target_mem_shapes (.self m node)
  exact hshapes name part hoccurs htarget

end Matcher

end Refusals

/-- The second way to match the rule binds a sequence, which yields the record of the rule. Without
it no binding is refused. -/
theorem Matcher.shapes_rule_out_refusals_pair :
    let letter : Node := .attribute "first" (.terminal "a")
    let wrong : Node := .alternation [letter, .attribute "rest" (.sequence [.terminal "b"])]
    let m : Matcher := { rules := [("pair", wrong)] }
    let m' : Matcher := { rules := [("pair", letter)] }
    let node : Node := .attribute "pairs" (.repetition (.rule "pair") true)
    let object := Object.record "test"
    let cursor := Cursor.start ['a', 'b']
    (∀ reference, m.Reachable node reference → ∃ name, reference = .rule name) ∧
      (m.matchNode node object cursor).1 =
        .error (.refusedBinding "pair" "rest" .selfReference) ∧
      m.SelfBinds "pair" "rest" m.maxDepth node object cursor ∧
      (∀ name part, m'.Occurs node (.attribute name part) → .target ∉ part.shapes) ∧
      (∀ cursor refusing name reason, (m'.matchNode node object cursor).1 ≠
        .error (.refusedBinding refusing name reason)) ∧
      ∃ yield next after, m'.matchNode node object cursor = (.ok (yield, next), after) ∧
        yield.shape ∈ node.shapes := by
  intro letter wrong m m' node object cursor
  have hrules (reference : Reference) (h : m.Reachable node reference) :
      ∃ name, reference = .rule name :=
    ⟨"pair", Matcher.reachable_eq_rule (by rfl : m.rules.find? "pair" = some wrong) (by decide)
      (by decide) h⟩
  have hrules' (reference : Reference) (h : m'.Reachable node reference) :
      ∃ name, reference = .rule name :=
    ⟨"pair", Matcher.reachable_eq_rule (by rfl : m'.rules.find? "pair" = some letter) (by decide)
      (by decide) h⟩
  have hshapes : ∀ name part, m'.Occurs node (.attribute name part) → .target ∉ part.shapes := by
    intro name part hoccurs
    have hmem := hoccurs.mem_of_rule (by rfl : m'.rules.find? "pair" = some letter) (by decide)
      (by decide)
    simp only [node, letter, Node.subtrees, List.mem_cons, List.not_mem_nil, reduceCtorEq,
      Node.attribute.injEq, or_false] at hmem
    rcases hmem with ⟨_, rfl⟩ | ⟨_, rfl⟩ <;> decide
  have hrefused : (m.matchNode node object cursor).1 =
      .error (.refusedBinding "pair" "rest" .selfReference) := by rfl
  obtain ⟨_, hbound⟩ := m.shapes_rule_out_refusals node cursor
  refine ⟨hrules, hrefused, ?_, hshapes, ?_, ?_⟩
  · exact ((hbound hrules "test" []).2 _ _ _ hrefused).2
  · intro cursor
    exact ((m'.shapes_rule_out_refusals node cursor).2 hrules' "test" []).1 hshapes
  · exact ⟨_, _, _, rfl, (m'.shapes_rule_out_refusals node cursor).1 object _ _ _ rfl⟩

end TextGrammar
