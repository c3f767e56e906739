import TextGrammar.Proofs.Anchoring
import TextGrammar.Proofs.Justification
/-!
# Nullability

Whether a node can match without consuming anything can be told from its form, the grammars that
its references stand for and what its terminals match. No repetition of a part that cannot do so is
ever stuck.
-/
namespace TextGrammar

/-- The least set of nodes that can match without consuming anything, as far as their form tells. -/
inductive Matcher.Nullable [Engine] (m : Matcher) : Node → Prop
  | terminal {pattern : String} {program : Engine.Program} {text : List Char} :
    Engine.compile pattern = some program → Engine.matchLength? program text = some 0 →
    Nullable m (.terminal pattern)
  | nested {type : String} : Nullable m (m.types type).grammar → Nullable m (.nested type)
  | rule {name : String} {grammar : Node} :
    m.rules.find? name = some grammar → Nullable m grammar → Nullable m (.rule name)
  | sequence {parts : List Node} : (∀ part ∈ parts, Nullable m part) → Nullable m (.sequence parts)
  | collect {parts : List Node} : (∀ part ∈ parts, Nullable m part) → Nullable m (.collect parts)
  | alternation {parts : List Node} {part : Node} :
    part ∈ parts → Nullable m part → Nullable m (.alternation parts)
  | attribute {name : String} {part : Node} : Nullable m part → Nullable m (.attribute name part)
  | ignore {part : Node} : Nullable m part → Nullable m (.ignore part)
  | optional (part : Node) : Nullable m (.optional part)
  /-- A repetition with a minimum has to move. -/
  | repetition (part : Node) : Nullable m (.repetition part true)

def Task.Nullable [Engine] (m : Matcher) : Task → Prop
  | .node grammar => m.Nullable grammar
  | .all _ parts => ∀ part ∈ parts, m.Nullable part
  | .first _ untried => ∃ part ∈ untried, m.Nullable part
  | .loop _ allowZero _ values bound => allowZero = true ∨ values ≠ [] ∨ bound = true
  | .enter (.rule name) => m.Nullable (.rule name)
  | .enter (.type name) => m.Nullable (.nested name)

/-- A success moves on, or stays where it is in a task that allows it. -/
def MovesUnless (stays : Prop) (cursor : Cursor) : Outcome Yield → Prop
  | .ok (_, next) => cursor.offset < next.offset ∨ next.offset = cursor.offset ∧ stays
  | .error _ => True

section

variable {m : Matcher} {stays stays' : Prop} {cursor next : Cursor} {outcome : Outcome Yield}

theorem MovesUnless.imp (h : MovesUnless stays cursor outcome) (himp : stays → stays') :
    MovesUnless stays' cursor outcome := by
  rcases outcome with failure | ⟨yield, last⟩
  · trivial
  · exact Or.imp_right (And.imp_right himp) h

theorem MovesUnless.trans {yield : Yield} (h : MovesUnless stays cursor (.ok (yield, next)))
    (h' : MovesUnless stays' next outcome) : MovesUnless (stays ∧ stays') cursor outcome := by
  rcases outcome with failure | ⟨yield', last⟩
  · trivial
  · rcases h with hmoves | ⟨hsame, hstays⟩
    · have hle : next.offset ≤ last.offset := by
        rcases h' with hmoves' | ⟨hsame', _⟩ <;> omega
      exact .inl (by omega)
    · rcases h' with hmoves' | ⟨hsame', hstays'⟩
      · exact .inl (by omega)
      · exact .inr ⟨by omega, hstays, hstays'⟩

theorem matchTerminal_movesUnless [Engine] (pattern : String) (cursor : Cursor) :
    MovesUnless (m.Nullable (.terminal pattern)) cursor (matchTerminal pattern cursor) := by
  obtain ⟨_, h⟩ | ⟨program, hprogram, ⟨_, h⟩ | ⟨length, hlength, h⟩⟩ :=
    matchTerminal_cases pattern cursor
  · rw [h]
    trivial
  · rw [h]
    trivial
  · rw [h]
    have hle := Engine.matchLength?_le hlength
    by_cases hzero : length = 0
    · subst hzero
      have hsame : (cursor.advance 0).offset = cursor.offset := by simp [Cursor.advance]
      exact .inr ⟨hsame, .terminal hprogram hlength⟩
    · have hpassed : cursor.rest.take length ≠ [] := by
        rw [Ne, List.take_eq_nil_iff, ← List.length_eq_zero_iff]
        omega
      have hbytes := mt byteLength_eq_zero_iff.mp hpassed
      have hmoves : cursor.offset < (cursor.advance length).offset := by
        simp only [Cursor.advance]
        omega
      exact .inl hmoves

theorem finishLoop_movesUnless (allowZero : Bool) (start : Nat) (values : List Value) (bound : Bool)
    (cursor : Cursor) :
    MovesUnless (allowZero = true ∨ values ≠ [] ∨ bound = true) cursor
      (finishLoop allowZero start values bound cursor) := by
  unfold finishLoop
  split
  · trivial
  · next henough =>
    refine .inr ⟨rfl, ?_⟩
    simp only [Bool.and_eq_true, List.isEmpty_iff, Bool.not_eq_true'] at henough
    grind

end

theorem Evaluates.movesUnless [Engine] [Targets] {m : Matcher} {depth : Nat} {task : Task}
    {object after : Object} {cursor : Cursor} {outcome : Outcome Yield}
    (h : Evaluates m depth task object cursor outcome after) :
    MovesUnless (task.Nullable m) cursor outcome := by
  induction h with
  | terminal pattern => exact matchTerminal_movesUnless pattern _
  | nested _ ih | rule _ ih => exact ih
  | sequenceFail | attributeRefused | attributeFail | ignoreFail | optionalFail | allFail | firstNil
  | firstFail | loopStuck | loopFail | enterUnresolved | enterTooDeep | enterFail => trivial
  | sequence _ ih => exact ih.imp .sequence
  | collect _ ih => exact ih.imp .collect
  | alternation _ ih => exact ih.imp fun ⟨part, hpart, hnullable⟩ => .alternation hpart hnullable
  | attributeBound _ _ ih => exact ih.imp .attribute
  | ignore _ ih => exact ih.imp .ignore
  | optional _ ih => exact ih.imp fun _ => .optional _
  | optionalSkip => exact .inr ⟨rfl, .optional _⟩
  | @repetition _ _ _ part allowZero _ _ _ ih =>
    refine ih.imp ?_
    rintro (rfl | hvalues | hbound)
    · exact .repetition part
    · exact absurd rfl hvalues
    · cases hbound
  | allNil => exact .inr ⟨rfl, by simp [Task.Nullable]⟩
  | allCons _ _ ih ih' =>
    refine (ih.trans ih').imp ?_
    rintro ⟨hpart, hparts⟩
    exact List.forall_mem_cons.mpr ⟨hpart, hparts⟩
  | firstOk _ ih => exact ih.imp fun hpart => ⟨_, List.mem_cons_self, hpart⟩
  | firstNext _ _ _ _ ih' =>
    refine ih'.imp ?_
    rintro ⟨part, hpart, hnullable⟩
    exact ⟨part, List.mem_cons_of_mem _ hpart, hnullable⟩
  | loopEnd | loopStop => exact finishLoop_movesUnless _ _ _ _ _
  | @loopStep _ _ cursor _ _ _ _ _ yield next _ _ _ _ _ hmoved _ ih ih' =>
    -- A round that moves leaves no way to end where the loop started.
    have hround : MovesUnless False cursor (.ok (yield, next)) := by
      rcases ih with hmoves | ⟨hsame, _⟩
      · exact .inl hmoves
      · exact absurd hsame hmoved
    exact (hround.trans ih').imp fun hfalse => hfalse.1.elim
  | @enter _ _ _ reference _ _ _ _ _ hresolve _ ih =>
    cases reference with
    | rule name =>
      obtain ⟨hfind, _⟩ := Matcher.resolve_rule_eq_ok hresolve
      exact ih.imp (.rule hfind)
    | type name =>
      cases hresolve
      exact ih.imp .nested

namespace Matcher

variable {m : Matcher}

theorem nullable_of_unmoved [Engine] [Targets] {node : Node} {object after : Object}
    {cursor next : Cursor} {yield : Yield}
    (h : m.matchNode node object cursor = (.ok (yield, next), after))
    (hsame : next.offset = cursor.offset) : m.Nullable node := by
  have hmoves := (evaluates_matchNode m node object cursor).movesUnless
  rw [h] at hmoves
  rcases hmoves with hmoves | ⟨_, hnullable⟩
  · omega
  · exact hnullable

/-- Repetitions of parts that cannot match without consuming anything are never stuck. A match that
succeeds where it starts is one of a nullable node; so if no repetition in the node, or in a grammar
that it can come to, has a nullable part, then no text makes the match fail for want of
progress. -/
theorem nullability_rules_out_noProgress [Engine] [Targets] (m : Matcher) (node : Node)
    (object : Object) (cursor : Cursor) :
    (∀ yield next after, m.matchNode node object cursor = (.ok (yield, next), after) →
      next.offset = cursor.offset → m.Nullable node) ∧
    ((∀ part allowZero, m.Occurs node (.repetition part allowZero) → ¬ m.Nullable part) →
      ∀ position, (m.matchNode node object cursor).1 ≠ .error (.noProgress position)) := by
  refine ⟨fun _ _ _ => nullable_of_unmoved, ?_⟩
  intro hparts position hstuck
  obtain ⟨text, hin⟩ := cursor.exists_isIn
  have hends := (evaluates_matchNode m node object cursor).endsJustified (Nat.le_refl _) hin
    (.self m node)
  rw [hstuck] at hends
  obtain ⟨_, part, allowZero, hoccurs, rest, built, yield, after, _, hmatch⟩ := hends
  exact hparts part allowZero hoccurs (nullable_of_unmoved hmatch rfl)

theorem not_nullable_terminal {pattern : String} {whole : Regex}
    (hwhole : Pattern.parse pattern.toList = some whole)
    (hspans : ∀ text, ¬ whole.Spans text 0 0) : ¬ m.Nullable (.terminal pattern) := by
  intro hnullable
  cases hnullable with
  | @terminal _ regex text hcompile hlength =>
    obtain ⟨span, hfind, hstop⟩ := Option.map_eq_some_iff.mp hlength
    rw [Terminal.compile_eq_sequence hwhole hcompile] at hfind
    obtain ⟨_, hempty⟩ := Regex.find_textStart hfind
    rw [hstop] at hempty
    exact hspans text hempty

/-- A rule that refers to itself is repeated, with letters after each use of it; what follows the
rounds matches nothing. -/
theorem nullability_rules_out_noProgress_letters :
    let item : Node := .collect [.terminal "a", .optional (.rule "item")]
    let m : Matcher := { rules := [("item", item)] }
    let node : Node :=
      .repetition (.collect [.rule "item", .repetition (.terminal "b") true]) false
    let tail : Node := .sequence [.optional (.rule "item"), .repetition (.terminal "b") true]
    let object := Object.record "test"
    (∀ part allowZero, m.Occurs node (.repetition part allowZero) → ¬ m.Nullable part) ∧
      (∀ cursor position, (m.matchNode node object cursor).1 ≠ .error (.noProgress position)) ∧
      (m.matchNode node object (Cursor.start ['a', 'a', 'b', 'a', 'c'])).1.isOk = true ∧
      m.matchNode tail object (Cursor.start ['c']) = (.ok (.target, ⟨0, ['c']⟩), object) ∧
      m.Nullable tail := by
  intro item m node tail object
  have hletter {pattern : String} {c : Char}
      (hwhole : Pattern.parse pattern.toList = some (.char c)) :
      ¬ m.Nullable (.terminal pattern) :=
    not_nullable_terminal hwhole fun text hempty => by cases hempty
  have ha : ¬ m.Nullable (.terminal "a") := hletter (c := 'a') (by decide +kernel)
  have hb : ¬ m.Nullable (.terminal "b") := hletter (c := 'b') (by decide +kernel)
  have hitem : ¬ m.Nullable (.rule "item") := by
    intro hnullable
    cases hnullable with
    | rule hfind hgrammar =>
      cases hfind
      cases (show m.Nullable (.collect [.terminal "a", .optional (.rule "item")])
        from hgrammar) with
      | collect hall => exact ha (hall _ List.mem_cons_self)
  have hparts : ∀ part allowZero, m.Occurs node (.repetition part allowZero) →
      ¬ m.Nullable part := by
    intro part allowZero hoccurs
    have hmem := hoccurs.mem_of_rule (by rfl : m.rules.find? "item" = some item) (by decide)
      (by decide)
    simp only [node, item, Node.subtrees, Node.allSubtrees, List.append_nil, List.cons_append,
      List.nil_append, List.mem_cons, List.not_mem_nil, Node.repetition.injEq, reduceCtorEq,
      false_or, or_false] at hmem
    rcases hmem with ⟨rfl, _⟩ | ⟨rfl, _⟩
    · intro hnullable
      cases hnullable with
      | collect hall => exact hitem (hall _ List.mem_cons_self)
    · exact hb
  have hmatch : m.matchNode tail object (Cursor.start ['c']) =
      (.ok (.target, ⟨0, ['c']⟩), object) := by rfl
  refine ⟨hparts, ?_, by rfl, hmatch, ?_⟩
  · intro cursor
    exact (m.nullability_rules_out_noProgress node object cursor).2 hparts
  · exact (m.nullability_rules_out_noProgress tail object _).1 _ _ _ hmatch rfl

end Matcher

end TextGrammar
