import TextGrammar.Proofs.Reachability
import TextGrammar.Terminal
/-!
# Texts as slices of the input

The texts that a match yields are slices of its input, one after the other: what was tried and
given up contributes nothing, and what was matched contributes once. Where nothing is ignored,
bound or built, the slices leave no gap.
-/
namespace TextGrammar

def IsSlice (text : List Char) (start stop : Nat) (piece : List Char) : Prop :=
  ∃ before after, text = before ++ piece ++ after ∧ start = byteLength before ∧
    stop = start + byteLength piece

/-- Pieces that are not empty stand in the text one after the other between two byte offsets. -/
inductive InOrder (text : List Char) : (start stop : Nat) → List String → Prop
  | nil {start stop} : start ≤ stop → InOrder text start stop []
  | cons {start first last stop piece pieces} :
    start ≤ first → first < last → IsSlice text first last piece.toList →
    InOrder text last stop pieces → InOrder text start stop (piece :: pieces)

theorem Cursor.IsIn.isSlice {cursor next : Cursor} {text passed : List Char} (h : cursor.IsIn text)
    (hrest : cursor.rest = passed ++ next.rest)
    (hoffset : next.offset = cursor.offset + byteLength passed) :
    IsSlice text cursor.offset next.offset passed := by
  obtain ⟨before, rfl, hbefore⟩ := Cursor.isIn_iff.mp h
  refine ⟨before, next.rest, ?_, hbefore, hoffset⟩
  rw [hrest, List.append_assoc]

namespace InOrder

variable {text : List Char} {start middle stop : Nat} {pieces further : List String}

theorem of_le (h : InOrder text middle stop pieces) (hle : start ≤ middle) :
    InOrder text start stop pieces := by
  cases h with
  | nil hmiddle => exact .nil (Nat.le_trans hle hmiddle)
  | cons hfirst hlast hslice hpieces =>
    exact .cons (Nat.le_trans hle hfirst) hlast hslice hpieces

theorem append (h : InOrder text start middle pieces) (h' : InOrder text middle stop further) :
    InOrder text start stop (pieces ++ further) := by
  induction h with
  | nil hle => exact h'.of_le hle
  | cons hfirst hlast hslice _ ih => exact .cons hfirst hlast hslice (ih h')

end InOrder

def texts (values : List Value) : List String := values.filterMap Value.text?

/-- An empty text is dropped when it is joined to a sequence. -/
theorem InOrder.of_isSlice {text : List Char} {start stop : Nat} {content : String}
    (h : IsSlice text start stop content.toList) :
    InOrder text start stop (texts (Value.text content).flatten) := by
  have ⟨_, _, _, _, hstop⟩ := h
  rw [Value.flatten]
  split
  · exact .nil (by omega)
  · next hempty =>
    have hpos : byteLength content.toList ≠ 0 := by
      rwa [Ne, byteLength_eq_zero_iff, String.toList_eq_nil_iff, ← String.isEmpty_iff]
    exact .cons (Nat.le_refl _) (by omega) h (.nil (Nat.le_refl _))

/-- To what was there before, a match adds values of which the texts stand in order between the
cursor and the place where it ends. -/
def Contributes (text : List Char) (values : List Value) (cursor : Cursor) : Outcome Yield → Prop
  | .ok (yield, next) => ∃ added, yield.flatten = values ++ added ∧
      InOrder text cursor.offset next.offset (texts added)
  | .error _ => True

namespace Contributes

variable {text : List Char} {values : List Value} {cursor next : Cursor}

theorem nothing (hnext : cursor.Reaches next) {yield : Yield} (hyield : yield.flatten = values) :
    Contributes text values cursor (.ok (yield, next)) :=
  ⟨[], by rw [hyield, List.append_nil], .nil hnext.offset_le⟩

theorem matchTerminal [Engine] (hin : cursor.IsIn text) (pattern : String) :
    Contributes text [] cursor (matchTerminal pattern cursor) := by
  obtain ⟨_, h⟩ | ⟨_, _, ⟨_, h⟩ | ⟨length, _, h⟩⟩ := matchTerminal_cases pattern cursor <;> rw [h]
  · trivial
  · trivial
  · have hslice : IsSlice text cursor.offset (cursor.advance length).offset
        (cursor.rest.take length) := hin.isSlice (List.take_append_drop ..).symm rfl
    exact ⟨_, rfl, InOrder.of_isSlice (by rwa [String.toList_ofList])⟩

theorem finishLoop (allowZero : Bool) (start : Nat) (values : List Value) (bound : Bool)
    (cursor : Cursor) :
    Contributes text values cursor (finishLoop allowZero start values bound cursor) := by
  rcases finishLoop_cases allowZero start values bound cursor with h | h <;> rw [h]
  · trivial
  · exact .nothing (.refl cursor) rfl

theorem append {yield : Yield} {outcome : Outcome Yield}
    (h : Contributes text [] cursor (.ok (yield, next)))
    (h' : Contributes text (values ++ yield.flatten) next outcome) :
    Contributes text values cursor outcome := by
  rcases outcome with failure | ⟨whole, last⟩
  · trivial
  · obtain ⟨added, hyield, horder⟩ := h
    obtain ⟨further, hwhole, horder'⟩ := h'
    refine ⟨added ++ further, ?_, ?_⟩
    · rw [hwhole, hyield, List.nil_append, List.append_assoc]
    · rw [texts, List.filterMap_append]
      exact horder.append horder'

end Contributes

theorem Evaluates.contributes [Engine] [Targets] {m : Matcher} {depth : Nat} {task : Task}
    {object after : Object} {cursor : Cursor} {outcome : Outcome Yield}
    (h : Evaluates m depth task object cursor outcome after) :
    ∀ {text : List Char}, cursor.IsIn text → Contributes text task.values cursor outcome := by
  induction h with
  | terminal pattern =>
    intro text hin
    exact .matchTerminal hin pattern
  | nested _ ih | rule _ ih | collect _ ih | alternation _ ih | optional _ ih | repetition _ ih
  | firstOk _ ih =>
    intro text hin
    exact ih hin
  | sequence h _ | attributeBound h _ _ | ignore h _ =>
    intro text hin
    exact .nothing (h.located (.refl _) trivial) rfl
  | sequenceFail | attributeRefused | attributeFail | ignoreFail | optionalFail | allFail | firstNil
  | firstFail | loopStuck | loopFail | enterUnresolved | enterTooDeep | enterFail =>
    intro text hin
    trivial
  | optionalSkip | allNil =>
    intro text hin
    exact .nothing (.refl _) rfl
  | allCons h _ ih ih' | loopStep _ h _ _ ih ih' =>
    intro text hin
    exact (ih hin).append (ih' (hin.of_reaches h.reaches))
  | firstNext _ _ _ _ ih' =>
    intro text hin
    exact ih' hin
  | loopEnd | loopStop =>
    intro text hin
    exact .finishLoop _ _ _ _ _
  | enter _ h _ =>
    intro text hin
    exact ⟨_, rfl, .nil h.reaches.offset_le⟩

theorem InOrder.exists_isSlice {before rest : List Char} {stop : Nat} {content : String}
    (h : InOrder (before ++ rest) (byteLength before) stop (texts (Value.text content).flatten)) :
    ∃ first last, byteLength before ≤ first ∧ last ≤ stop ∧
      IsSlice (before ++ rest) first last content.toList := by
  rw [Value.flatten] at h
  split at h
  · next hempty =>
    rw [String.isEmpty_iff.mp hempty]
    cases h with
    | nil hle => exact ⟨_, _, Nat.le_refl _, hle, before, rest, by simp⟩
  · cases h with
    | cons hfirst _ hslice hnil =>
      cases hnil with
      | nil hlast => exact ⟨_, _, hfirst, hlast, hslice⟩

/-! ## Grammars that keep all text -/

namespace Node

def keepsText : Node → Bool
  | .terminal _ | .collect _ | .alternation _ | .optional _ | .repetition .. => true
  | .nested _ | .rule _ | .sequence _ | .attribute .. | .ignore _ => false

/-- The grammar is built from terminals, collections, alternations, options and repetitions. -/
def isTextual (node : Node) : Bool := node.subtrees.all keepsText

theorem isTextual_iff {node : Node} :
    node.isTextual = true ↔
      node.keepsText = true ∧ ∀ part ∈ node.children, part.isTextual = true := by
  simp only [isTextual, subtrees_eq_cons node, List.all_cons, List.all_flatMap, Bool.and_eq_true,
    List.all_eq_true]

end Node

/-- To what was there before, a match adds texts that together are all it has passed. -/
def Covers (values : List Value) (cursor : Cursor) : Outcome Yield → Prop
  | .ok (yield, next) => yield.isTarget = false ∧ ∃ pieces : List String,
      yield.flatten = values ++ pieces.map .text ∧
        cursor.rest = pieces.flatMap String.toList ++ next.rest
  | .error _ => True

namespace Covers

variable {values : List Value} {cursor next : Cursor}

theorem matchTerminal [Engine] (pattern : String) (cursor : Cursor) :
    Covers [] cursor (matchTerminal pattern cursor) := by
  obtain ⟨_, h⟩ | ⟨_, _, ⟨_, h⟩ | ⟨length, _, h⟩⟩ := matchTerminal_cases pattern cursor <;> rw [h]
  · trivial
  · trivial
  · have hrest := (List.take_append_drop length cursor.rest).symm
    refine ⟨rfl, ?_⟩
    by_cases hempty : cursor.rest.take length = []
    · refine ⟨[], by simp [hempty, Yield.flatten, Value.flatten], ?_⟩
      rwa [hempty] at hrest
    · refine ⟨[String.ofList (cursor.rest.take length)], ?_, ?_⟩
      · simp [Yield.flatten, Value.flatten, hempty]
      · rwa [List.flatMap_singleton, String.toList_ofList]

theorem nothing (cursor : Cursor) {value : Value} (hvalue : value.flatten = values) :
    Covers values cursor (.ok (.value value, cursor)) :=
  ⟨rfl, [], by rw [Yield.flatten, hvalue, List.map_nil, List.append_nil], rfl⟩

theorem finishLoop (allowZero : Bool) (start : Nat) (values : List Value) (bound : Bool)
    (cursor : Cursor) : Covers values cursor (finishLoop allowZero start values bound cursor) := by
  rcases finishLoop_cases allowZero start values bound cursor with h | h <;> rw [h]
  · trivial
  · exact .nothing cursor rfl

theorem append {yield : Yield} {outcome : Outcome Yield}
    (h : Covers [] cursor (.ok (yield, next)))
    (h' : Covers (values ++ yield.flatten) next outcome) : Covers values cursor outcome := by
  rcases outcome with failure | ⟨whole, last⟩
  · trivial
  · obtain ⟨_, pieces, hyield, hrest⟩ := h
    obtain ⟨hvalue, further, hwhole, hrest'⟩ := h'
    refine ⟨hvalue, pieces ++ further, ?_, ?_⟩
    · rw [hwhole, hyield, List.nil_append, List.append_assoc, List.map_append]
    · rw [hrest, hrest', List.flatMap_append, List.append_assoc]

end Covers

theorem Evaluates.covers [Engine] [Targets] {m : Matcher} {depth : Nat} {task : Task}
    {object after : Object} {cursor : Cursor} {outcome : Outcome Yield}
    (h : Evaluates m depth task object cursor outcome after) :
    (∀ node ∈ task.nodes, node.isTextual = true) → Covers task.values cursor outcome := by
  induction h with
  | terminal pattern =>
    intro _
    exact .matchTerminal pattern _
  | nested | rule | sequence | attributeBound | ignore =>
    intro htextual
    obtain ⟨hkeeps, _⟩ := Node.isTextual_iff.mp (htextual _ (List.mem_singleton_self _))
    cases hkeeps
  | collect _ ih | alternation _ ih | optional _ ih | repetition _ ih =>
    intro htextual
    exact ih (Node.isTextual_iff.mp (htextual _ (List.mem_singleton_self _))).2
  | sequenceFail | attributeRefused | attributeFail | ignoreFail | optionalFail | allFail | firstNil
  | firstFail | loopStuck | loopFail | enterUnresolved | enterTooDeep | enterFail =>
    intro _
    trivial
  | optionalSkip | allNil =>
    intro _
    exact .nothing _ rfl
  | allCons _ _ ih ih' =>
    intro htextual
    obtain ⟨hpart, hparts⟩ := List.forall_mem_cons.mp htextual
    exact (ih (List.forall_mem_singleton.mpr hpart)).append (ih' hparts)
  | firstOk _ ih =>
    intro htextual
    exact ih (List.forall_mem_singleton.mpr (List.forall_mem_cons.mp htextual).1)
  | firstNext _ _ _ _ ih' =>
    intro htextual
    exact ih' (List.forall_mem_cons.mp htextual).2
  | loopEnd | loopStop =>
    intro _
    exact .finishLoop _ _ _ _ _
  | loopStep _ _ _ _ ih ih' =>
    intro htextual
    exact (ih htextual).append (ih' htextual)
  | @enter _ _ _ reference =>
    intro htextual
    cases reference <;>
    · obtain ⟨hkeeps, _⟩ := Node.isTextual_iff.mp (htextual _ (List.mem_singleton_self _))
      cases hkeeps

theorem Value.flatten_eq_map_text {value : Value} {pieces : List String}
    (h : value.flatten = pieces.map .text) :
    (∃ content, value = .text content ∧ content.toList = pieces.flatMap String.toList) ∨
      value = .sequence (pieces.map .text) := by
  cases value with
  | text content =>
    refine .inl ⟨content, rfl, ?_⟩
    rw [flatten] at h
    split at h
    · next hempty =>
      rw [List.map_eq_nil_iff.mp h.symm, String.isEmpty_iff.mp hempty]
      rfl
    · obtain ⟨piece, rfl, hpiece⟩ := List.map_eq_singleton_iff.mp h.symm
      cases hpiece
      rw [List.flatMap_singleton]
  | sequence items => exact .inr (congrArg sequence h)
  | object =>
    obtain ⟨piece, _, hpiece⟩ := List.map_eq_singleton_iff.mp h.symm
    cases hpiece

theorem Covers.exists_isSlice {cursor next : Cursor} {text : List Char} {yield : Yield}
    (h : Covers [] cursor (.ok (yield, next))) (hin : cursor.IsIn text)
    (hnext : cursor.Reaches next) :
    (∃ content, yield = .value (.text content) ∧
      IsSlice text cursor.offset next.offset content.toList) ∨
    ∃ pieces : List String, yield = .value (.sequence (pieces.map .text)) ∧
      IsSlice text cursor.offset next.offset (pieces.flatMap String.toList) := by
  obtain ⟨hvalue, pieces, hyield, hrest⟩ := h
  obtain ⟨passed, hpassed, hoffset⟩ := hnext
  rw [List.append_cancel_right (hpassed.symm.trans hrest)] at hoffset
  have hslice := hin.isSlice hrest hoffset
  cases yield with
  | target => cases hvalue
  | value value =>
    rcases Value.flatten_eq_map_text hyield with ⟨content, rfl, hcontent⟩ | rfl
    · exact .inl ⟨content, rfl, by rwa [hcontent]⟩
    · exact .inr ⟨pieces, rfl, hslice⟩

/-- No text is lost, doubled or moved. A text that a match yields is a slice of what it has passed.
The texts of a sequence that it yields are slices of what it has passed, each after the one before
it. Together they are all that it has passed, if the grammar ignores, binds and builds nothing. -/
theorem Matcher.matchNode_texts_are_slices [Engine] [Targets] (m : Matcher) (node : Node)
    (object after : Object) (before rest : List Char) (yield : Yield) (next : Cursor)
    (hmatch : m.matchNode node object ⟨byteLength before, rest⟩ = (.ok (yield, next), after)) :
    (∀ content, yield = .value (.text content) →
      ∃ first last, byteLength before ≤ first ∧ last ≤ next.offset ∧
        IsSlice (before ++ rest) first last content.toList) ∧
    (∀ items, yield = .value (.sequence items) →
      InOrder (before ++ rest) (byteLength before) next.offset (texts items)) ∧
    (node.isTextual = true →
      (∃ content, yield = .value (.text content) ∧
        IsSlice (before ++ rest) (byteLength before) next.offset content.toList) ∨
      ∃ pieces : List String, yield = .value (.sequence (pieces.map .text)) ∧
        IsSlice (before ++ rest) (byteLength before) next.offset
          (pieces.flatMap String.toList)) := by
  have hevaluates := evaluates_iff_run.mpr hmatch
  have hin := Cursor.isIn_append before rest
  obtain ⟨_, rfl, horder⟩ := hevaluates.contributes hin
  refine ⟨?_, ?_, ?_⟩
  · rintro content rfl
    exact horder.exists_isSlice
  · rintro items rfl
    exact horder
  · intro htextual
    exact Covers.exists_isSlice (hevaluates.covers (List.forall_mem_singleton.mpr htextual)) hin
      hevaluates.reaches

theorem Matcher.matchNode_texts_are_slices_rounds :
    let rounds : Node := .repetition (.collect [.terminal "a", .terminal "b"]) true
    let choice : Node := .alternation [.collect [rounds, .terminal "!"], .terminal "ab"]
    let m : Matcher := { }
    let object := Object.record "test"
    let cursor : Cursor := ⟨byteLength ['é'], ['a', 'b', 'a', 'c']⟩
    let text := ['é', 'a', 'b', 'a', 'c']
    let yield := Yield.value (.sequence [.text "a", .text "b"])
    (m.matchNode rounds object cursor = (.ok (yield, ⟨4, ['a', 'c']⟩), object) ∧
      rounds.isTextual = true ∧ InOrder text 2 4 ["a", "b"] ∧
      ∃ pieces : List String, yield = .value (.sequence (pieces.map .text)) ∧
        IsSlice text 2 4 (pieces.flatMap String.toList)) ∧
    m.matchNode choice object cursor = (.ok (.value (.text "ab"), ⟨4, ['a', 'c']⟩), object) ∧
      ∃ first last, 2 ≤ first ∧ last ≤ 4 ∧ IsSlice text first last "ab".toList := by
  intro rounds choice m object cursor text yield
  have hrounds : m.matchNode rounds object cursor = (.ok (yield, ⟨4, ['a', 'c']⟩), object) := by
    rfl
  have hchoice : m.matchNode choice object cursor =
      (.ok (.value (.text "ab"), ⟨4, ['a', 'c']⟩), object) := by rfl
  obtain ⟨_, hsequence, htextual⟩ := m.matchNode_texts_are_slices rounds object object ['é']
    ['a', 'b', 'a', 'c'] yield ⟨4, ['a', 'c']⟩ hrounds
  obtain ⟨htext, _⟩ := m.matchNode_texts_are_slices choice object object ['é']
    ['a', 'b', 'a', 'c'] (.value (.text "ab")) ⟨4, ['a', 'c']⟩ hchoice
  refine ⟨⟨hrounds, by rfl, hsequence _ rfl, ?_⟩, hchoice, htext _ rfl⟩
  refine (htextual (by rfl)).resolve_left ?_
  rintro ⟨_, htext, _⟩
  simp [yield] at htext

end TextGrammar
