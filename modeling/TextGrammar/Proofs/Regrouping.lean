import Mathlib.Data.List.Forall2
import Mathlib.Logic.Relation
import TextGrammar.Proofs.Combinators
import TextGrammar.Terminal
/-!
# Regrouping

A sequence within a sequence, a collection within a collection and an alternation within an
alternation can be dissolved into the outer one. This may be done anywhere in a grammar and in the
grammars that it refers to; a match shows it in nothing but the notations of alternatives that
failed.
-/
namespace TextGrammar

def Failure.withoutNotations : Failure → Failure
  | .noAlternative _ position => .noAlternative [] position
  | failure => failure

theorem Failure.isRecoverable_eq_of_withoutNotations {failure failure' : Failure}
    (h : failure.withoutNotations = failure'.withoutNotations) :
    failure.isRecoverable = failure'.isRecoverable := by
  have hkeeps (failure : Failure) :
      failure.withoutNotations.isRecoverable = failure.isRecoverable := by
    cases failure <;> rfl
  rw [← hkeeps failure, h, hkeeps failure']

/-- Two matches come to the same and leave the same object behind. Failures may differ in the
notations of the alternatives that were attempted. -/
inductive SameMatch {α : Type} : Outcome α × Object → Outcome α × Object → Prop
  | ok (result : α × Cursor) (object : Object) : SameMatch (.ok result, object) (.ok result, object)
  | error {failure failure' : Failure} (object : Object) :
    failure.withoutNotations = failure'.withoutNotations →
    SameMatch (.error failure, object) (.error failure', object)

namespace SameMatch

variable {α β : Type} {first second third : Outcome α × Object}

theorem refl (first : Outcome α × Object) : SameMatch first first := by
  obtain ⟨failure | result, object⟩ := first
  · exact .error object rfl
  · exact .ok result object

theorem symm (h : SameMatch first second) : SameMatch second first := by
  cases h with
  | ok result object => exact .ok result object
  | error object hsame => exact .error object hsame.symm

theorem trans (h : SameMatch first second) (h' : SameMatch second third) :
    SameMatch first third := by
  cases h with
  | ok => exact h'
  | error object hsame =>
    cases h' with
    | error _ hsame' => exact .error object (hsame.trans hsame')

theorem andThen {further further' : α → Cursor → Object → Outcome β × Object}
    (h : SameMatch first second)
    (hfurther : ∀ result next object,
      SameMatch (further result next object) (further' result next object)) :
    SameMatch (TextGrammar.andThen first further) (TextGrammar.andThen second further') := by
  cases h with
  | ok result object => exact hfurther result.1 result.2 object
  | error object hsame => exact .error object hsame

theorem recover {other other' : Object → Outcome α × Object} (h : SameMatch first second)
    (hother : ∀ object, SameMatch (other object) (other' object)) :
    SameMatch (TextGrammar.recover first other) (TextGrammar.recover second other') := by
  cases h with
  | ok result object => exact .ok result object
  | @error failure failure' object hsame =>
    have hrecover := Failure.isRecoverable_eq_of_withoutNotations hsame
    by_cases h : failure'.isRecoverable = true
    · rw [recover_of_isRecoverable h, recover_of_isRecoverable (hrecover.trans h)]
      exact hother object
    · have hfatal : failure'.isRecoverable = false := by simpa using h
      rw [recover_of_isFatal hfatal, recover_of_isFatal (hrecover.trans hfatal)]
      exact .error object hsame

theorem repeatStep {step step' : Object → Cursor → Outcome Yield × Object}
    (h : ∀ object cursor, SameMatch (step object cursor) (step' object cursor)) (fuel : Nat)
    (values : List Value) (bound : Bool) (object : Object) (cursor : Cursor) :
    SameMatch (TextGrammar.repeatStep step fuel values bound object cursor)
      (TextGrammar.repeatStep step' fuel values bound object cursor) := by
  induction fuel generalizing values bound object cursor with
  | zero => exact refl _
  | succ fuel ih =>
    rw [TextGrammar.repeatStep, TextGrammar.repeatStep]
    by_cases hend : cursor.isAtEnd = true
    · rw [if_pos hend, if_pos hend]
      exact refl _
    · rw [if_neg hend, if_neg hend]
      have hstep := h object cursor
      generalize step object cursor = first at hstep ⊢
      generalize step' object cursor = second at hstep ⊢
      cases hstep with
      | ok result between =>
        by_cases hsame : result.2.offset = cursor.offset
        · simp only [hsame, ↓reduceIte]
          exact refl _
        · simp only [hsame, ↓reduceIte]
          exact ih _ _ _ _
      | @error failure failure' left hfailure =>
        have hrecover := Failure.isRecoverable_eq_of_withoutNotations hfailure
        by_cases h : failure'.isRecoverable = true
        · simp only [hrecover, h, ↓reduceIte]
          exact refl _
        · simp only [hrecover, h, Bool.false_eq_true, ↓reduceIte]
          exact .error left hfailure

end SameMatch

namespace Node

/-- A list combinator that stands among the parts of one of its own kind is dissolved, at one place
anywhere in the node. -/
inductive Flattens : Node → Node → Prop
  | sequence (before inner after : List Node) :
    Flattens (.sequence (before ++ .sequence inner :: after)) (.sequence (before ++ inner ++ after))
  | collect (before inner after : List Node) :
    Flattens (.collect (before ++ .collect inner :: after)) (.collect (before ++ inner ++ after))
  | alternation (before inner after : List Node) :
    Flattens (.alternation (before ++ .alternation inner :: after))
      (.alternation (before ++ inner ++ after))
  | inSequence (before after : List Node) {part part' : Node} : Flattens part part' →
    Flattens (.sequence (before ++ part :: after)) (.sequence (before ++ part' :: after))
  | inCollect (before after : List Node) {part part' : Node} : Flattens part part' →
    Flattens (.collect (before ++ part :: after)) (.collect (before ++ part' :: after))
  | inAlternation (before after : List Node) {part part' : Node} : Flattens part part' →
    Flattens (.alternation (before ++ part :: after)) (.alternation (before ++ part' :: after))
  | inAttribute (name : String) {part part' : Node} : Flattens part part' →
    Flattens (.attribute name part) (.attribute name part')
  | inIgnore {part part' : Node} : Flattens part part' → Flattens (.ignore part) (.ignore part')
  | inOptional {part part' : Node} : Flattens part part' →
    Flattens (.optional part) (.optional part')
  | inRepetition (allowZero : Bool) {part part' : Node} : Flattens part part' →
    Flattens (.repetition part allowZero) (.repetition part' allowZero)

/-- One node comes from the other by dissolving combinators and putting them back, any number of
times. -/
def Regroups : Node → Node → Prop := Relation.EqvGen Flattens

/-! ## Dissolving one combinator -/

variable [Engine] [Targets]

section Dissolving

variable (enter : Reference → Cursor → Outcome Value)

/-- A sequence drops what its parts yield, so it does not matter what stands in front of it. -/
private theorem runAll_dropped (parts : List Node) (values : List Value) (object : Object)
    (cursor : Cursor) :
    andThen (runAll enter parts values object cursor)
        (fun _ next object => ((.ok (.target, next), object) : Outcome Yield × Object)) =
      (Node.sequence parts).run enter object cursor := by
  rw [run_sequence, runAll_values, andThen_assoc]
  rfl

theorem run_sequence_flatten (before inner after : List Node) (object : Object) (cursor : Cursor) :
    (Node.sequence (before ++ .sequence inner :: after)).run enter object cursor =
      (Node.sequence (before ++ inner ++ after)).run enter object cursor := by
  rw [List.append_assoc, run_sequence, run_sequence, runAll_append, runAll_append, andThen_assoc,
    andThen_assoc]
  congr 1
  funext values next between
  rw [runAll_cons, run_sequence, andThen_assoc, andThen_assoc, runAll_append, andThen_assoc,
    runAll_values enter inner values, andThen_assoc]
  simp only [andThen_ok, runAll_dropped]

theorem run_collect_flatten (before inner after : List Node) (object : Object) (cursor : Cursor) :
    (Node.collect (before ++ .collect inner :: after)).run enter object cursor =
      (Node.collect (before ++ inner ++ after)).run enter object cursor := by
  rw [List.append_assoc, run_collect, run_collect, runAll_append, runAll_append]
  congr 2
  funext values next between
  rw [runAll_cons, run_collect, andThen_assoc, runAll_append, runAll_values enter inner values,
    andThen_assoc]
  rfl

theorem run_alternation_flatten (before inner after : List Node) (object : Object)
    (cursor : Cursor) :
    SameMatch ((Node.alternation (before ++ .alternation inner :: after)).run enter object cursor)
      ((Node.alternation (before ++ inner ++ after)).run enter object cursor) := by
  -- A failed alternation can be recovered from, the inner one too.
  have hfailed : (Failure.noAlternative (inner.map render) cursor.offset).isRecoverable = true :=
    rfl
  have hflat (failure : Failure) :
      tryAll enter (before ++ .alternation inner :: after) failure object cursor =
        tryAll enter (before ++ inner ++ after) failure object cursor := by
    rw [List.append_assoc, tryAll_append enter before _ hfailed,
      tryAll_append enter before _ hfailed]
    congr 1
    funext between
    rw [tryAll_cons, run_alternation, tryAll_append enter inner after hfailed]
  rw [run_alternation, run_alternation, hflat, tryAll, tryAll]
  rcases runFirst enter (before ++ inner ++ after) object cursor with ⟨_ | outcome, left⟩
  · exact .error left rfl
  · exact .refl _

end Dissolving

/-! ## Congruence -/

def Agrees (enter enter' : Reference → Cursor → Outcome Value) (node node' : Node) : Prop :=
  ∀ object cursor, SameMatch (node.run enter object cursor) (node'.run enter' object cursor)

namespace Agrees

variable {enter enter' : Reference → Cursor → Outcome Value} {part part' : Node}
  {parts parts' : List Node}

theorem runAll (h : List.Forall₂ (Agrees enter enter') parts parts') (values : List Value)
    (object : Object) (cursor : Cursor) :
    SameMatch (Node.runAll enter parts values object cursor)
      (Node.runAll enter' parts' values object cursor) := by
  induction h generalizing values object cursor with
  | nil => exact .refl _
  | cons hpart _ ih =>
    rw [runAll_cons, runAll_cons]
    exact (hpart object cursor).andThen fun _ _ _ => ih _ _ _

theorem sequence (h : List.Forall₂ (Agrees enter enter') parts parts') :
    Agrees enter enter' (.sequence parts) (.sequence parts') := by
  intro object cursor
  rw [run_sequence, run_sequence]
  exact (runAll h [] object cursor).andThen fun _ _ _ => .refl _

theorem collect (h : List.Forall₂ (Agrees enter enter') parts parts') :
    Agrees enter enter' (.collect parts) (.collect parts') := by
  intro object cursor
  rw [run_collect, run_collect]
  exact (runAll h [] object cursor).andThen fun _ _ _ => .refl _

theorem alternation (h : List.Forall₂ (Agrees enter enter') parts parts') :
    Agrees enter enter' (.alternation parts) (.alternation parts') := by
  intro object cursor
  rw [run_alternation, run_alternation]
  have hnone : (Failure.noAlternative (parts.map render) cursor.offset).withoutNotations =
      (Failure.noAlternative (parts'.map render) cursor.offset).withoutNotations := rfl
  -- The notations are those of all parts, so they are no part of the induction.
  generalize Failure.noAlternative (parts.map render) cursor.offset = failure at hnone ⊢
  generalize Failure.noAlternative (parts'.map render) cursor.offset = failure' at hnone ⊢
  induction h generalizing object with
  | nil => exact .error object hnone
  | cons hpart _ ih =>
    rw [tryAll_cons, tryAll_cons]
    exact (hpart object cursor).recover ih

theorem «attribute» (name : String) (h : Agrees enter enter' part part') :
    Agrees enter enter' (.attribute name part) (.attribute name part') := by
  intro object cursor
  rw [run_attribute, run_attribute]
  exact (h object cursor).andThen fun _ _ _ => .refl _

theorem ignore (h : Agrees enter enter' part part') :
    Agrees enter enter' (.ignore part) (.ignore part') := by
  intro object cursor
  rw [run_ignore, run_ignore]
  exact (h object cursor).andThen fun _ _ _ => .refl _

theorem optional (h : Agrees enter enter' part part') :
    Agrees enter enter' (.optional part) (.optional part') := by
  intro object cursor
  rw [run_optional, run_optional]
  exact (h object cursor).recover fun _ => .refl _

theorem repetition (allowZero : Bool) (h : Agrees enter enter' part part') :
    Agrees enter enter' (.repetition part allowZero) (.repetition part' allowZero) := by
  intro object cursor
  have hrounds := SameMatch.repeatStep h cursor.rest.length [] false object cursor
  rw [run, run, matchRepetition, matchRepetition]
  generalize TextGrammar.repeatStep (part.run enter) _ _ _ _ _ = first at hrounds ⊢
  generalize TextGrammar.repeatStep (part'.run enter') _ _ _ _ _ = second at hrounds ⊢
  cases hrounds with
  | ok result left => exact .refl _
  | error left hfailure => exact .error left hfailure

theorem replace (before after : List Node) (h : Agrees enter enter part part') :
    List.Forall₂ (Agrees enter enter) (before ++ part :: after) (before ++ part' :: after) := by
  have hrefl (parts : List Node) : List.Forall₂ (Agrees enter enter) parts parts :=
    List.forall₂_same.mpr fun part _ object cursor => .refl _
  exact List.rel_append (hrefl before) (.cons h (hrefl after))

end Agrees

theorem Flattens.agrees {node node' : Node} (h : node.Flattens node')
    (enter : Reference → Cursor → Outcome Value) : Agrees enter enter node node' := by
  induction h with
  | sequence before inner after =>
    intro object cursor
    rw [run_sequence_flatten]
    exact .refl _
  | collect before inner after =>
    intro object cursor
    rw [run_collect_flatten]
    exact .refl _
  | alternation before inner after => exact run_alternation_flatten enter before inner after
  | inSequence before after _ ih => exact .sequence (ih.replace before after)
  | inCollect before after _ ih => exact .collect (ih.replace before after)
  | inAlternation before after _ ih => exact .alternation (ih.replace before after)
  | inAttribute name _ ih => exact ih.attribute name
  | inIgnore _ ih => exact ih.ignore
  | inOptional _ ih => exact ih.optional
  | inRepetition allowZero _ ih => exact ih.repetition allowZero

theorem Regroups.agrees {node node' : Node} (h : node.Regroups node')
    (enter : Reference → Cursor → Outcome Value) : Agrees enter enter node node' := by
  induction h with
  | rel node node' hflattens => exact hflattens.agrees enter
  | refl node =>
    intro object cursor
    exact .refl _
  | symm node node' _ ih =>
    intro object cursor
    exact (ih object cursor).symm
  | trans node middle node' _ _ ih ih' =>
    intro object cursor
    exact (ih object cursor).trans (ih' object cursor)

/-! ## References -/

def EntersAlike (enter enter' : Reference → Cursor → Outcome Value) : Prop :=
  ∀ reference cursor object,
    SameMatch (enter reference cursor, object) (enter' reference cursor, object)

section References

variable {enter enter' : Reference → Cursor → Outcome Value}

omit [Engine] [Targets] in
private theorem yieldObject_sameMatch (henter : EntersAlike enter enter') (reference : Reference)
    (object : Object) (cursor : Cursor) :
    SameMatch (yieldObject (enter reference cursor), object)
      (yieldObject (enter' reference cursor), object) := by
  have h := henter reference cursor object
  generalize enter reference cursor = first at h ⊢
  generalize enter' reference cursor = second at h ⊢
  cases h with
  | ok result => exact .refl _
  | error _ hfailure => exact .error object hfailure

mutual
/-- A node shows nothing of its references but what following them comes to. -/
theorem agrees_self (henter : EntersAlike enter enter') :
    (node : Node) → Agrees enter enter' node node
  | .terminal pattern => fun object cursor => by
    rw [run, run]
    exact .refl _
  | .nested type => fun object cursor => by
    rw [run, run]
    exact yieldObject_sameMatch henter (.type type) object cursor
  | .rule name => fun object cursor => by
    rw [run, run]
    exact yieldObject_sameMatch henter (.rule name) object cursor
  | .sequence parts => .sequence (allAgree_self henter parts)
  | .collect parts => .collect (allAgree_self henter parts)
  | .alternation parts => .alternation (allAgree_self henter parts)
  | .attribute name part => (agrees_self henter part).attribute name
  | .ignore part => (agrees_self henter part).ignore
  | .optional part => (agrees_self henter part).optional
  | .repetition part allowZero => (agrees_self henter part).repetition allowZero

theorem allAgree_self (henter : EntersAlike enter enter') :
    (parts : List Node) → List.Forall₂ (Agrees enter enter') parts parts
  | [] => .nil
  | part :: parts => .cons (agrees_self henter part) (allAgree_self henter parts)
end

end References

end Node

/-- The matchers differ in how the grammars of their rules and types are grouped. -/
structure Matcher.Regroups (m m' : Matcher) : Prop where
  rules : ∀ name, Option.Rel Node.Regroups (m.rules.find? name) (m'.rules.find? name)
  types : ∀ name, (m.types name).instantiate name = (m'.types name).instantiate name ∧
    (m.types name).grammar.Regroups (m'.types name).grammar
  maxDepth : m.maxDepth = m'.maxDepth

namespace Matcher

section Regrouping

variable {m m' : Matcher}

theorem Regroups.resolve (h : m.Regroups m') (reference : Reference) :
    (∃ grammar grammar' fresh, m.resolve reference = .ok (grammar, fresh) ∧
        m'.resolve reference = .ok (grammar', fresh) ∧ grammar.Regroups grammar') ∨
      ∃ failure, m.resolve reference = .error failure ∧ m'.resolve reference = .error failure := by
  cases reference with
  | rule name =>
    have hrule := h.rules name
    simp only [Matcher.resolve]
    generalize m.rules.find? name = found at hrule ⊢
    generalize m'.rules.find? name = found' at hrule ⊢
    cases hrule with
    | none => exact .inr ⟨_, rfl, rfl⟩
    | some hgrammar => exact .inl ⟨_, _, _, rfl, rfl, hgrammar⟩
  | type name =>
    obtain ⟨hfresh, hgrammar⟩ := h.types name
    refine .inl ⟨_, _, (m.types name).instantiate name, rfl, ?_, hgrammar⟩
    rw [Matcher.resolve, hfresh]

variable [Engine] [Targets]

theorem Regroups.enter (h : m.Regroups m') (depth : Nat) :
    Node.EntersAlike (m.enter depth) (m'.enter depth) := by
  intro reference cursor object
  induction depth generalizing reference cursor object with
  | zero =>
    obtain ⟨grammar, grammar', fresh, hfound, hfound', _⟩ | ⟨failure, hfailed, hfailed'⟩ :=
      h.resolve reference
    · rw [Matcher.enter, Matcher.enter, hfound, hfound', h.maxDepth]
      exact .refl _
    · rw [Matcher.enter, Matcher.enter, hfailed, hfailed']
      exact .refl _
  | succ depth ih =>
    obtain ⟨grammar, grammar', fresh, hfound, hfound', hgrammar⟩ | ⟨failure, hfailed, hfailed'⟩ :=
      h.resolve reference
    · have hsame := (hgrammar.agrees (m.enter depth) fresh cursor).trans
        (Node.agrees_self ih grammar' fresh cursor)
      rw [Matcher.enter, Matcher.enter, hfound, hfound']
      dsimp only
      generalize grammar.run (m.enter depth) fresh cursor = first at hsame ⊢
      generalize grammar'.run (m'.enter depth) fresh cursor = second at hsame ⊢
      cases hsame with
      | ok result built => exact .refl _
      | error _ hfailure => exact .error object hfailure
    · rw [Matcher.enter, Matcher.enter, hfailed, hfailed']
      exact .refl _

/-- Nested list combinators may be flattened anywhere, and put back: in the node that is matched, in
the rules and in the types. On every object and at every cursor the match comes to the same value
and cursor or to the same failure, but for the notations of alternatives, and leaves the same
object. -/
theorem regrouping_keeps_matches (hmatcher : m.Regroups m') {node node' : Node}
    (hnode : node.Regroups node') (object : Object) (cursor : Cursor) :
    SameMatch (m.matchNode node object cursor) (m'.matchNode node' object cursor) := by
  have hflat := hnode.agrees (m.enter m.maxDepth) object cursor
  have hsame := Node.agrees_self (hmatcher.enter m.maxDepth) node' object cursor
  rw [matchNode, matchNode, ← hmatcher.maxDepth]
  exact hflat.trans hsame

end Regrouping

/-- The alternatives of a rule are regrouped, and so are the parts around its use. Where the rule
does not match, the failures differ in their notations. -/
theorem regrouping_keeps_matches_letters :
    let flat : Node := .alternation [.terminal "a", .terminal "b", .terminal "c"]
    let grouped : Node := .alternation [.terminal "a", .alternation [.terminal "b", .terminal "c"]]
    let m : Matcher := { rules := [("letter", grouped)] }
    let m' : Matcher := { rules := [("letter", flat)] }
    let node : Node := .collect [.terminal "x", .collect [.ignore (.rule "letter"), .terminal "y"]]
    let node' : Node := .collect [.terminal "x", .ignore (.rule "letter"), .terminal "y"]
    let object := Object.record "test"
    let wrong := Cursor.start ['x', 'd']
    let right := Cursor.start ['x', 'c', 'y']
    m.Regroups m' ∧ node.Regroups node' ∧
      m.matchNode node object wrong =
        (.error (.noAlternative ["/a/", "(/b/ | /c/)"] 1), object) ∧
      m'.matchNode node' object wrong =
        (.error (.noAlternative ["/a/", "/b/", "/c/"] 1), object) ∧
      SameMatch (m.matchNode node object wrong) (m'.matchNode node' object wrong) ∧
      m.matchNode node object right =
        (.ok (.value (.sequence [.text "x", .text "y"]), ⟨3, []⟩), object) ∧
      SameMatch (m.matchNode node object right) (m'.matchNode node' object right) := by
  intro flat grouped m m' node node' object wrong right
  have hnode : node.Regroups node' :=
    .rel _ _ (.collect [.terminal "x"] [.ignore (.rule "letter"), .terminal "y"] [])
  have hletters : grouped.Regroups flat :=
    .rel _ _ (.alternation [.terminal "a"] [.terminal "b", .terminal "c"] [])
  have hmatcher : m.Regroups m' := by
    refine ⟨?_, fun name => ⟨rfl, .refl _⟩, rfl⟩
    intro name
    simp only [m, m', NameMap.find?_cons, NameMap.find?_nil]
    split
    · exact .some hletters
    · exact .none
  refine ⟨hmatcher, hnode, by rfl, by rfl, ?_, by rfl, ?_⟩
  · exact regrouping_keeps_matches hmatcher hnode object wrong
  · exact regrouping_keeps_matches hmatcher hnode object right

end Matcher

end TextGrammar
