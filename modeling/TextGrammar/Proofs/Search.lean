import TextGrammar.Regex.Search
/-!
# Bounds of a search

A search reads its text from the start, so a match that it finds ends within the text.
-/
namespace TextGrammar

namespace Regex

theorem matched?_stop {position : Nat} {threads : List Thread} {span : Span}
    (h : matched? position threads = some span) : span.stop = position := by
  obtain ⟨thread, _, hthread⟩ := List.exists_of_findSome?_eq_some h
  split at hthread
  · cases hthread
    rfl
  · cases hthread

private theorem best_stop_le {position : Nat} {threads : List Thread} {best : Option Span}
    (hbest : ∀ span, best = some span → span.stop ≤ position) (span : Span)
    (h : (matched? position threads).or best = some span) : span.stop ≤ position := by
  rcases Option.or_eq_some_iff.mp h with hmatched | ⟨_, hold⟩
  · exact Nat.le_of_eq (matched?_stop hmatched)
  · exact hbest span hold

theorem scan_stop_le {r : Regex} {position : Nat} {before : Option Char} {threads : List Thread}
    {best : Option Span} {rest : List Char} {span : Span}
    (hbest : ∀ span, best = some span → span.stop ≤ position)
    (h : scan r position before threads best rest = some span) :
    span.stop ≤ position + rest.length := by
  induction rest generalizing position before threads best with
  | nil => exact best_stop_le hbest span h
  | cons c rest ih =>
    rw [scan] at h
    generalize settle _ _ _ _ _ = settled at h
    have hmatched (span : Span) (hor : (matched? position settled).or best = some span) :
        span.stop ≤ position := best_stop_le hbest span hor
    rw [List.length_cons]
    split at h
    · have hle := hmatched span h
      omega
    · have hle := ih (fun span h => Nat.le_succ_of_le (hmatched span h)) h
      omega

theorem find_stop_le {r : Regex} {text : List Char} {span : Span} (h : r.find text = some span) :
    span.stop ≤ text.length := by
  have hle := scan_stop_le (by simp) h
  omega

end Regex

end TextGrammar
