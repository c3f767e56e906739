import TextGrammar.Matching.Basic
import TextGrammar.Proofs.Enclosing
import TextGrammar.Proofs.Spans
import TextGrammar.Terminal
/-!
# Terminals are tied to their cursor

A terminal whose pattern is well formed on its own skips nothing: what it consumes is a match of
the pattern that starts at the cursor. A pattern that closes the group around it is not tied.
-/
namespace TextGrammar

namespace Regex

theorem choice_singleton {r : Regex} (h : r.branches = [r]) : choice [r] = r := by
  rw [choice]
  cases (List.flatMap parts [r]).length with
  | zero => simp [choiceWith, h, ofBranches]
  | succ fuel => simp [choiceWith, h, ofBranches]

/-- A sequence that starts with an assertion is no alternation. -/
theorem branches_sequence_look (kind : Look) (r : Regex) :
    (sequence [.look kind, r]).branches = [sequence [.look kind, r]] := by
  have hparts : sequence [.look kind, r] = ofParts (.look kind :: r.parts) := by
    simp [sequence, parts]
  rw [hparts]
  cases r.parts with
  | nil => rfl
  | cons => rfl

theorem start_eq_zero {text : List Char} {start : Nat} (hstart : start ≤ text.length)
    (h : charBefore text start = none) : start = 0 := by
  cases start with
  | zero => rfl
  | succ start =>
    rw [charBefore, List.getElem?_eq_none_iff] at h
    omega

theorem find_textStart {r : Regex} {text : List Char} {span : Span}
    (h : (sequence [.look .textStart, r]).find text = some span) :
    span.start = 0 ∧ r.Spans text 0 span.stop := by
  have hspans := find_spans h
  have hlength : span.start ≤ text.length := Nat.le_trans hspans.start_le_stop (find_stop_le h)
  obtain ⟨_, hlook, _, hr, rfl⟩ := spans_sequence.mp hspans
  cases hlook with
  | look hholds =>
    have hzero : span.start = 0 := start_eq_zero hlength (Option.isNone_iff_eq_none.mp hholds)
    rw [hzero] at hr
    exact ⟨hzero, hr⟩

end Regex

theorem Terminal.compile_eq_sequence {pattern : String} {whole regex : Regex}
    (hwhole : Pattern.parse pattern.toList = some whole)
    (hcompile : Terminal.compile pattern = some regex) :
    regex = .sequence [.look .textStart, whole] := by
  rw [Pattern.parse_anchored hwhole hcompile, Regex.choice_singleton]
  exact Regex.branches_sequence_look .textStart whole

/-- Terminals never skip text, provided their pattern is well formed on its own: the match that
gives the length starts at the cursor, the pattern spans exactly the characters that are consumed,
and these characters are the text that is yielded. -/
theorem matchTerminal_spans_from_cursor {pattern : String} {whole regex : Regex} {cursor : Cursor}
    {length : Nat} (hwhole : Pattern.parse pattern.toList = some whole)
    (hcompile : Terminal.compile pattern = some regex)
    (hlength : Terminal.matchLength? regex cursor.rest = some length) :
    regex.find cursor.rest = some ⟨0, length⟩ ∧ whole.Spans cursor.rest 0 length ∧
      length ≤ cursor.rest.length ∧
      matchTerminal pattern cursor =
        .ok (.value (.text (String.ofList (cursor.rest.take length))), cursor.advance length) := by
  obtain ⟨⟨start, stop⟩, hfind, rfl⟩ := Option.map_eq_some_iff.mp hlength
  have hregex := Terminal.compile_eq_sequence hwhole hcompile
  obtain ⟨rfl, hspans⟩ := Regex.find_textStart (hregex ▸ hfind)
  refine ⟨hfind, hspans, Regex.find_stop_le hfind, ?_⟩
  rw [matchTerminal, Terminal.engine_compile, hcompile]
  simp only [Terminal.engine_matchLength?, hlength]

theorem matchTerminal_spans_from_cursor_else :
    ∃ whole regex, Pattern.parse "if|else".toList = some whole ∧
      Terminal.compile "if|else" = some regex ∧
      Terminal.matchLength? regex "else x".toList = some 4 ∧
      regex.find "else x".toList = some ⟨0, 4⟩ ∧ whole.Spans "else x".toList 0 4 ∧
      matchTerminal "if|else" (Cursor.start "else x".toList) =
        .ok (.value (.text "else"), ⟨4, [' ', 'x']⟩) := by
  let whole : Regex := .alt (.seq (.char 'i') (.char 'f'))
    (.seq (.char 'e') (.seq (.char 'l') (.seq (.char 's') (.char 'e'))))
  let regex : Regex := .seq (.look .textStart) whole
  have hwhole : Pattern.parse "if|else".toList = some whole := by decide +kernel
  have hcompile : Terminal.compile "if|else" = some regex := by decide +kernel
  have hlength : Terminal.matchLength? regex (Cursor.start "else x".toList).rest = some 4 := by
    decide +kernel
  obtain ⟨hfind, hspans, _, hmatch⟩ := matchTerminal_spans_from_cursor hwhole hcompile hlength
  exact ⟨whole, regex, hwhole, hcompile, hlength, hfind, hspans, hmatch⟩

/-- A pattern that closes the group around it is searched for, and what lies before the match is
consumed with it. -/
theorem matchTerminal_closing_group_skips :
    ∃ regex, Terminal.compile "a)|(?:b" = some regex ∧
      Terminal.matchLength? regex ['x', 'x', 'b'] = some 3 ∧
      regex.find ['x', 'x', 'b'] = some ⟨2, 3⟩ ∧
      matchTerminal "a)|(?:b" (Cursor.start ['x', 'x', 'b']) =
        .ok (.value (.text "xxb"), ⟨3, []⟩) := by
  let regex : Regex := .alt (.seq (.look .textStart) (.char 'a')) (.char 'b')
  have hcompile : Terminal.compile "a)|(?:b" = some regex := by decide +kernel
  have hlength : Terminal.matchLength? regex ['x', 'x', 'b'] = some 3 := by decide +kernel
  refine ⟨regex, hcompile, hlength, by decide +kernel, ?_⟩
  simp only [matchTerminal, Terminal.engine_compile, Terminal.engine_matchLength?, hcompile,
    Cursor.start, hlength]
  rfl

end TextGrammar
