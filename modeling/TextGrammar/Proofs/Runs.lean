import TextGrammar.Matching.Basic
import TextGrammar.Proofs.Readers
import TextGrammar.Terminal
/-!
# Runs of characters

Terminals of two simple forms and what they match: one character of a set, and a run of characters
of a set. A run is taken as a whole; it ends at the first character that is not in the set.
-/
namespace TextGrammar

namespace Regex

def oneOf (set : CharSet) : Regex := .seq (.look .textStart) (.chars set)

/-- Characters of the set from the start of the text on, as many as there are but at least one. -/
def manyOf (set : CharSet) : Regex := .seq (.look .textStart) (.iterate 1 none true (.chars set))

variable (set : CharSet)

@[simp] theorem advance_nil (c : Char) (start : Nat) : advance c ⟨start, []⟩ = none := rfl

@[simp] theorem advance_chars (c : Char) (start : Nat) (todo : List Regex) :
    advance c ⟨start, .chars set :: todo⟩ = if set.has c then some ⟨start, todo⟩ else none := rfl

private theorem settle_oneOf (after : Option Char) :
    settle none after (8 * (oneOf set).weight + 16) [⟨0, [oneOf set]⟩] [] =
      [⟨0, [.chars set]⟩] := by
  simp [oneOf, weight, settle, ways, Look.holds]

private theorem settle_manyOf (after : Option Char) :
    settle none after (8 * (manyOf set).weight + 16) [⟨0, [manyOf set]⟩] [] =
      [⟨0, [.chars set, .again true (.chars set)]⟩] := by
  simp [manyOf, weight, settle, ways, Look.holds]

private theorem settle_again (before after : Option Char) :
    settle before after (8 * (manyOf set).weight + 16) [⟨0, [.again true (.chars set)]⟩] [] =
      [⟨0, [.chars set, .again true (.chars set)]⟩, ⟨0, []⟩] := by
  simp [manyOf, weight, settle, ways, prefer]

/-- Inside a run every position is a match, and the last one counts. -/
private theorem scan_manyOf {position : Nat} (hposition : position ≠ 0) (before : Option Char)
    (best : Option Span) (rest : List Char) :
    scan (manyOf set) position before [⟨0, [.again true (.chars set)]⟩] best rest =
      some ⟨0, position + (rest.takeWhile set.has).length⟩ := by
  have hanchored : (manyOf set).isAnchored = true := rfl
  induction rest generalizing position before best with
  | nil =>
    rw [scan]
    simp [hanchored, hposition, settle_again, matched?]
  | cons c rest ih =>
    rw [scan]
    by_cases hc : set.has c = true
    · have hnext := ih (show position + 1 ≠ 0 by omega) (some c) (some ⟨0, position⟩)
      simp [hanchored, hposition, settle_again, matched?, List.filterMap_cons, hc, hnext]
      omega
    · simp [hanchored, hposition, settle_again, matched?, List.filterMap_cons, hc]

theorem find_manyOf (text : List Char) :
    (manyOf set).find text =
      if (text.takeWhile set.has).isEmpty then none
      else some ⟨0, (text.takeWhile set.has).length⟩ := by
  have hanchored : (manyOf set).isAnchored = true := rfl
  cases text with
  | nil =>
    rw [find, scan]
    simp [settle_manyOf, matched?]
  | cons c rest =>
    rw [find, scan]
    by_cases hc : set.has c = true
    · have hrest := scan_manyOf set Nat.one_ne_zero (some c) none rest
      simp [settle_manyOf, matched?, hc, hrest]
      omega
    · simp [hanchored, settle_manyOf, matched?, hc]

theorem find_oneOf (text : List Char) :
    (oneOf set).find text = if text.head?.any set.has then some ⟨0, 1⟩ else none := by
  have hanchored : (oneOf set).isAnchored = true := rfl
  cases text with
  | nil =>
    rw [find, scan]
    simp [settle_oneOf, matched?]
  | cons c rest =>
    rw [find, scan]
    by_cases hc : set.has c = true
    · have hsettle (before after : Option Char) :
          settle before after (8 * (oneOf set).weight + 16) [⟨0, []⟩] [] = [⟨0, []⟩] := by
        simp [settle]
      cases rest with
      | nil => simp [settle_oneOf, matched?, hc, scan, hanchored, hsettle]
      | cons => simp [settle_oneOf, matched?, hc, scan, hanchored, hsettle]
    · simp [hanchored, settle_oneOf, matched?, hc]

end Regex

/-! ## Terminals -/

variable {pattern : String} {set : CharSet}

theorem matchTerminal_manyOf (hpattern : Terminal.compile pattern = some (.manyOf set))
    (offset : Nat) {run rest : List Char} (hne : run ≠ []) (hrun : ∀ c ∈ run, set.has c = true)
    (hrest : ∀ c ∈ rest.head?, set.has c = false) :
    matchTerminal pattern ⟨offset, run ++ rest⟩ =
      .ok (.value (.text (String.ofList run)), ⟨offset + byteLength run, rest⟩) := by
  have htake := Reader.takeWhile_append_of_stop hrun hrest
  have hlength : Terminal.matchLength? (.manyOf set) (run ++ rest) = some run.length := by
    simp [Terminal.matchLength?, Regex.find_manyOf, htake, hne]
  simp [matchTerminal, hpattern, hlength, Cursor.advance]

theorem matchTerminal_manyOf_mismatch (hpattern : Terminal.compile pattern = some (.manyOf set))
    {cursor : Cursor} (hrest : ∀ c ∈ cursor.rest.head?, set.has c = false) :
    matchTerminal pattern cursor = .error (.mismatch pattern cursor.offset) := by
  have htake : cursor.rest.takeWhile set.has = [] :=
    Reader.takeWhile_append_of_stop (List.forall_mem_nil _) hrest
  have hlength : Terminal.matchLength? (.manyOf set) cursor.rest = none := by
    simp [Terminal.matchLength?, Regex.find_manyOf, htake]
  simp [matchTerminal, hpattern, hlength]

theorem matchTerminal_oneOf (hpattern : Terminal.compile pattern = some (.oneOf set))
    (offset : Nat) {c : Char} (hc : set.has c = true) (rest : List Char) :
    matchTerminal pattern ⟨offset, c :: rest⟩ =
      .ok (.value (.text (String.ofList [c])), ⟨offset + c.utf8Size, rest⟩) := by
  have hlength : Terminal.matchLength? (.oneOf set) (c :: rest) = some 1 := by
    simp [Terminal.matchLength?, Regex.find_oneOf, hc]
  simp [matchTerminal, hpattern, hlength, Cursor.advance]

theorem matchTerminal_oneOf_mismatch (hpattern : Terminal.compile pattern = some (.oneOf set))
    {cursor : Cursor} (hrest : ∀ c ∈ cursor.rest.head?, set.has c = false) :
    matchTerminal pattern cursor = .error (.mismatch pattern cursor.offset) := by
  have hlength : Terminal.matchLength? (.oneOf set) cursor.rest = none := by
    cases hcursor : cursor.rest with
    | nil => simp [Terminal.matchLength?, Regex.find_oneOf]
    | cons c rest =>
      rw [hcursor] at hrest
      simp [Terminal.matchLength?, Regex.find_oneOf, hrest c rfl]
  simp [matchTerminal, hpattern, hlength]

/-! ## Words, blanks and parentheses -/

theorem compile_word : Terminal.compile "\\w+" = some (.manyOf (.named .word)) := by
  decide +kernel

theorem compile_blanks : Terminal.compile " +" = some (.manyOf (.single ' ')) := by
  decide +kernel

theorem compile_open : Terminal.compile "\\(" = some (.oneOf (.single '(')) := by
  decide +kernel

theorem compile_close : Terminal.compile "\\)" = some (.oneOf (.single ')')) := by
  decide +kernel

@[simp] theorem has_word (c : Char) : (CharSet.named .word).has c = Unicode.isWord c.toNat := rfl

theorem mem_of_head?_append {run rest : List Char} (hne : run ≠ []) {c : Char}
    (hc : c ∈ (run ++ rest).head?) : c ∈ run := by
  cases run with
  | nil => exact absurd rfl hne
  | cons first run =>
    rw [List.cons_append, List.head?_cons, Option.mem_some_iff] at hc
    simp [hc]

theorem ne_of_head?_word {word rest : List Char} {other : Char} (hne : word ≠ [])
    (hword : ∀ c ∈ word, Unicode.isWord c.toNat = true)
    (hother : Unicode.isWord other.toNat = false) : ∀ c ∈ (word ++ rest).head?, c ≠ other := by
  intro c hc h
  have hc' := hword c (mem_of_head?_append hne hc)
  rw [h, hother] at hc'
  cases hc'

end TextGrammar
