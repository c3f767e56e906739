import TextGrammar.Proofs.Combinators
import TextGrammar.Proofs.Iteration
import TextGrammar.Terminal
/-!
# Separated lists

A separated list is a chain of items with separators between them, as long as it can be made. The
items contribute to it and the separators do not; a separator with no item after it is left in the
text.
-/
namespace TextGrammar.Node

section Chains

variable [Engine] [Targets]

variable (m : Matcher) (depth : Nat) (item separator : Node)

/-- Separators, each with an item after it. A separator is matched where the item before it has
ended, and its item where the separator has ended; a pair of them moves. The yields are those of the
items, and the last cursor is where the last item has ended. -/
inductive Pairs : Object → Cursor → List Yield → Object → Cursor → Prop
  | nil (object : Object) (cursor : Cursor) : Pairs object cursor [] object cursor
  | cons {object between left after : Object} {cursor start next last : Cursor}
      {gap yield : Yield} {yields : List Yield} :
    separator.run (m.enter depth) object cursor = (.ok (gap, start), between) →
    item.run (m.enter depth) between start = (.ok (yield, next), left) →
    cursor.offset < next.offset →
    Pairs left next yields after last →
    Pairs object cursor (yield :: yields) after last

def Chain (object : Object) (cursor : Cursor) (yields : List Yield) (after : Object)
    (last : Cursor) : Prop :=
  ∃ first next between further,
    item.run (m.enter depth) object cursor = (.ok (first, next), between) ∧
      Pairs m depth item separator between next further after last ∧ yields = first :: further

/-- No pair can be matched at the cursor. What the attempt has bound stays. -/
inductive Ends : Object → Cursor → Object → Prop
  | atEnd {object : Object} {cursor : Cursor} : cursor.isAtEnd = true → Ends object cursor object
  | noSeparator {object after : Object} {cursor : Cursor} {failure : Failure} :
    cursor.isAtEnd = false →
    separator.run (m.enter depth) object cursor = (.error failure, after) →
    failure.isRecoverable = true → Ends object cursor after
  | noItem {object between after : Object} {cursor start : Cursor} {gap : Yield}
      {failure : Failure} :
    cursor.isAtEnd = false →
    separator.run (m.enter depth) object cursor = (.ok (gap, start), between) →
    item.run (m.enter depth) between start = (.error failure, after) →
    failure.isRecoverable = true → Ends object cursor after

private def pair : Node := .collect [.ignore separator, item]

variable {m depth item separator}

section Pair

variable {object between after : Object} {cursor start next : Cursor} {gap yield : Yield}

private theorem run_pair (enter : Reference → Cursor → Outcome Value) (object : Object)
    (cursor : Cursor) :
    (pair item separator).run enter object cursor =
      andThen (separator.run enter object cursor) fun _ start object =>
        andThen (item.run enter object start) fun yield next object =>
          (.ok (.value (.sequence yield.flatten), next), object) := by
  rw [pair, run_collect, runAll_cons, run_ignore, andThen_assoc, andThen_assoc]
  congr 1
  funext _ start object
  rw [andThen_ok, runAll_cons, andThen_assoc]
  rfl

private theorem run_pair_of_ok
    (hgap : separator.run (m.enter depth) object cursor = (.ok (gap, start), between))
    (hitem : item.run (m.enter depth) between start = (.ok (yield, next), after)) :
    (pair item separator).run (m.enter depth) object cursor =
      (.ok (.value (.sequence yield.flatten), next), after) := by
  rw [run_pair, hgap, andThen_ok, hitem, andThen_ok]

private theorem run_pair_eq_ok {result : Yield}
    (h : (pair item separator).run (m.enter depth) object cursor = (.ok (result, next), after)) :
    ∃ gap start between yield,
      separator.run (m.enter depth) object cursor = (.ok (gap, start), between) ∧
        item.run (m.enter depth) between start = (.ok (yield, next), after) ∧
        result = .value (.sequence yield.flatten) := by
  rw [run_pair] at h
  rcases hgap : separator.run (m.enter depth) object cursor with ⟨failure | ⟨gap, start⟩, between⟩
  · rw [hgap] at h
    cases h
  · rw [hgap, andThen_ok] at h
    rcases hitem : item.run (m.enter depth) between start with ⟨failure | ⟨yield, stop⟩, left⟩
    · rw [hitem] at h
      cases h
    · rw [hitem, andThen_ok] at h
      cases h
      exact ⟨gap, start, between, yield, rfl, hitem, rfl⟩

private theorem run_pair_eq_error {failure : Failure}
    (h : (pair item separator).run (m.enter depth) object cursor = (.error failure, after)) :
    separator.run (m.enter depth) object cursor = (.error failure, after) ∨
      ∃ gap start between,
        separator.run (m.enter depth) object cursor = (.ok (gap, start), between) ∧
          item.run (m.enter depth) between start = (.error failure, after) := by
  rw [run_pair] at h
  rcases hgap : separator.run (m.enter depth) object cursor with ⟨failed | ⟨gap, start⟩, between⟩
  · rw [hgap, andThen_error] at h
    exact .inl h
  · rw [hgap, andThen_ok] at h
    rcases hitem : item.run (m.enter depth) between start with ⟨failed | ⟨yield, stop⟩, left⟩
    · rw [hitem, andThen_error] at h
      exact .inr ⟨gap, start, between, rfl, hitem.trans h⟩
    · rw [hitem] at h
      cases h

end Pair

variable {object built after : Object} {cursor last : Cursor} {yields : List Yield}

private theorem Pairs.iterate (h : Pairs m depth item separator object cursor yields built last) :
    ∃ rounds, contributed rounds = yields.flatMap Yield.flatten ∧
      (pair item separator).iterate m depth object cursor =
        match (pair item separator).iterate m depth built last with
        | (.ok (further, stop), after) => (.ok (rounds ++ further, stop), after)
        | (.error failure, after) => (.error failure, after) := by
  induction h with
  | nil object cursor =>
    refine ⟨[], rfl, ?_⟩
    rcases (pair item separator).iterate m depth object cursor with
      ⟨failure | ⟨further, stop⟩, after⟩ <;> rfl
  | @cons object between left built cursor start next last gap yield yields hgap hitem hmoved _ ih =>
    obtain ⟨rounds, hrounds, hiterate⟩ := ih
    have hrun := run_pair_of_ok hgap hitem
    have hmoves : next.offset ≠ cursor.offset := by omega
    -- A pair that moves does not start at the end of the text.
    have hend : cursor.isAtEnd = false := by
      have hlt := (evaluates_iff_run.mpr hrun).reaches.length_lt hmoves
      simp only [Cursor.isAtEnd, List.isEmpty_eq_false_iff]
      exact List.ne_nil_of_length_pos (by omega)
    refine ⟨⟨cursor, .value (.sequence yield.flatten)⟩ :: rounds, ?_, ?_⟩
    · rw [contributed_cons, hrounds, List.flatMap_cons]
      rfl
    · rw [iterate_of_round hend hrun hmoves, hiterate]
      rcases (pair item separator).iterate m depth built last with
        ⟨failure | ⟨further, stop⟩, after⟩ <;> rfl

private theorem pairs_of_iterate {rounds : List Round}
    (h : (pair item separator).iterate m depth object cursor = (.ok (rounds, last), after)) :
    ∃ yields built, Pairs m depth item separator object cursor yields built last ∧
      contributed rounds = yields.flatMap Yield.flatten ∧
      Ends m depth item separator built last after := by
  induction rounds generalizing object cursor with
  | nil =>
    obtain ⟨rfl, ⟨hend, rfl⟩ | ⟨hend, failure, hrecover, hrun⟩⟩ := iterate_eq_nil h
    · exact ⟨[], after, .nil _ _, rfl, .atEnd hend⟩
    · refine ⟨[], object, .nil _ _, rfl, ?_⟩
      rcases run_pair_eq_error hrun with hgap | ⟨gap, start, between, hgap, hitem⟩
      · exact .noSeparator hend hgap hrecover
      · exact .noItem hend hgap hitem hrecover
  | cons round rounds ih =>
    obtain ⟨next, between, hrun, _, hmoved, hrest⟩ := iterate_eq_cons h
    obtain ⟨gap, start, left, yield, hgap, hitem, hyield⟩ := run_pair_eq_ok hrun
    obtain ⟨yields, built, hpairs, hrounds, hends⟩ := ih hrest
    refine ⟨yield :: yields, built, .cons hgap hitem hmoved hpairs, ?_, hends⟩
    rw [contributed_cons, hyield, hrounds, List.flatMap_cons]
    rfl

private theorem Ends.iterate (h : Ends m depth item separator object cursor after) :
    (pair item separator).iterate m depth object cursor = (.ok ([], cursor), after) := by
  cases h with
  | atEnd hend => exact iterate_of_isAtEnd hend
  | noSeparator hend hgap hrecover =>
    refine iterate_of_stop hend ?_ hrecover
    rw [run_pair, hgap, andThen_error]
  | noItem hend hgap hitem hrecover =>
    refine iterate_of_stop hend ?_ hrecover
    rw [run_pair, hgap, andThen_ok, hitem, andThen_error]

private theorem run_separatedList (object : Object) (cursor : Cursor) :
    (separatedList item separator).run (m.enter depth) object cursor =
      andThen (item.run (m.enter depth) object cursor) fun first next object =>
        match (pair item separator).iterate m depth object next with
        | (.ok (rounds, last), after) =>
          (.ok (.value (.sequence (first.flatten ++ contributed rounds)), last), after)
        | (.error failure, after) => (.error failure, after) := by
  rw [separatedList, run_collect, runAll_cons, andThen_assoc]
  congr 1
  funext first next object
  rw [runAll_cons, ← pair, run_repetition, andThen_assoc]
  rcases (pair item separator).iterate m depth object next with
    ⟨failure | ⟨rounds, last⟩, after⟩
  · rfl
  · simp [runAll, Yield.flatten, Value.flatten]

private theorem Chain.run (h : Chain m depth item separator object cursor yields built last) :
    (separatedList item separator).run (m.enter depth) object cursor =
      match (pair item separator).iterate m depth built last with
      | (.ok (further, stop), after) =>
        (.ok (.value (.sequence (yields.flatMap Yield.flatten ++ contributed further)), stop), after)
      | (.error failure, after) => (.error failure, after) := by
  obtain ⟨first, next, between, yields, hfirst, hpairs, rfl⟩ := h
  obtain ⟨rounds, hrounds, hiterate⟩ := hpairs.iterate
  rw [run_separatedList, hfirst, andThen_ok, hiterate]
  rcases (pair item separator).iterate m depth built last with ⟨failure | ⟨further, stop⟩, after⟩
  · rfl
  · simp [← hrounds, contributed]

private theorem chain_of_run {yield : Yield}
    (h : (separatedList item separator).run (m.enter depth) object cursor =
      (.ok (yield, last), after)) :
    ∃ yields built, Chain m depth item separator object cursor yields built last ∧
      yield = .value (.sequence (yields.flatMap Yield.flatten)) ∧
      Ends m depth item separator built last after := by
  rw [run_separatedList] at h
  rcases hfirst : item.run (m.enter depth) object cursor with ⟨failure | ⟨first, next⟩, between⟩
  · rw [hfirst] at h
    cases h
  · rw [hfirst, andThen_ok] at h
    rcases hrounds : (pair item separator).iterate m depth between next with
      ⟨failure | ⟨rounds, stop⟩, left⟩
    · rw [hrounds] at h
      cases h
    · rw [hrounds] at h
      cases h
      obtain ⟨yields, built, hpairs, hvalues, hends⟩ := pairs_of_iterate hrounds
      have hchain : Chain m depth item separator object cursor (first :: yields) built last :=
        ⟨first, next, between, yields, hfirst, hpairs, rfl⟩
      have hyield : first.flatten ++ contributed rounds =
          (first :: yields).flatMap Yield.flatten := by
        rw [List.flatMap_cons, hvalues]
      exact ⟨first :: yields, built, hchain, by rw [hyield], hends⟩

/-- A separated list holds its items and nothing else. It succeeds exactly if there is a chain of
items with separators between them, each match starting where the one before it ended, that cannot
be made longer; it yields what the items contribute and ends where the last of them ends, so a
separator without an item after it is not consumed. If the first item fails the list fails with the
same failure, and a pair of a separator and an item that consumes nothing before the end of the text
is reported as such. -/
theorem separatedList_is_longest_chain (m : Matcher) (depth : Nat) (item separator : Node)
    (object : Object) (cursor : Cursor) :
    (∀ yield last after,
      (separatedList item separator).run (m.enter depth) object cursor =
          (.ok (yield, last), after) ↔
        ∃ yields built, Chain m depth item separator object cursor yields built last ∧
          yield = .value (.sequence (yields.flatMap Yield.flatten)) ∧
          Ends m depth item separator built last after) ∧
    (∀ failure after, item.run (m.enter depth) object cursor = (.error failure, after) →
      (separatedList item separator).run (m.enter depth) object cursor =
        (.error failure, after)) ∧
    (∀ yields built last gap start between yield next after,
      Chain m depth item separator object cursor yields built last →
      last.isAtEnd = false →
      separator.run (m.enter depth) built last = (.ok (gap, start), between) →
      item.run (m.enter depth) between start = (.ok (yield, next), after) →
      next.offset = last.offset →
      (separatedList item separator).run (m.enter depth) object cursor =
        (.error (.noProgress last.offset), after)) := by
  refine ⟨?_, ?_, ?_⟩
  · intro yield last after
    constructor
    · exact chain_of_run
    · rintro ⟨yields, built, hchain, rfl, hends⟩
      rw [hchain.run, hends.iterate]
      simp only [contributed_nil, List.append_nil]
  · intro failure after hitem
    rw [run_separatedList, hitem, andThen_error]
  · intro yields built last gap start between yield next after hchain hend hgap hitem hsame
    have hstuck := iterate_of_stuck hend (run_pair_of_ok hgap hitem) hsame
    rw [hchain.run, hstuck]

end Chains

/-- The comma after the second letter stays in the text. Without a first letter there is no list,
and letters and commas that may both be missing make no progress. -/
theorem separatedList_is_longest_chain_letters :
    let m : Matcher := { }
    let letter : Node := .terminal "\\w"
    let comma : Node := .terminal ","
    let object := Object.record "test"
    let cursor := Cursor.start ['a', ',', 'b', ',']
    let last : Cursor := ⟨3, [',']⟩
    let hollow : Node := separatedList (.terminal "a?") (.terminal ",?")
    (separatedList letter comma).run (m.enter 0) object cursor =
        (.ok (.value (.sequence [.text "a", .text "b"]), last), object) ∧
      (∃ yields built, Chain m 0 letter comma object cursor yields built last ∧
        Yield.value (.sequence [.text "a", .text "b"]) =
          .value (.sequence (yields.flatMap Yield.flatten)) ∧
        Ends m 0 letter comma built last object) ∧
      (separatedList letter comma).run (m.enter 0) object (Cursor.start [',']) =
        (.error (.mismatch "\\w" 0), object) ∧
      hollow.run (m.enter 0) object (Cursor.start ['a', 'b']) =
        (.error (.noProgress 1), object) := by
  intro m letter comma object cursor last hollow
  have hmatch : (separatedList letter comma).run (m.enter 0) object cursor =
      (.ok (.value (.sequence [.text "a", .text "b"]), last), object) := by rfl
  have hchain : Chain m 0 (.terminal "a?") (.terminal ",?") object (Cursor.start ['a', 'b'])
      [.value (.text "a")] object ⟨1, ['b']⟩ :=
    ⟨_, _, _, [], by rfl, .nil _ _, rfl⟩
  refine ⟨hmatch, ?_, ?_, ?_⟩
  · exact ((separatedList_is_longest_chain m 0 letter comma object cursor).1 _ _ _).mp hmatch
  · exact (separatedList_is_longest_chain m 0 letter comma object _).2.1 _ _ (by rfl)
  · exact (separatedList_is_longest_chain m 0 _ _ object _).2.2 _ _ _ _ _ _ _ _ _ hchain rfl
      (by rfl) (by rfl) rfl

end TextGrammar.Node
