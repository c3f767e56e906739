import TextGrammar.Proofs.Justification
import TextGrammar.Terminal
/-!
# Greedy iteration

A repetition as a recursive function. One round is matched at the cursor, and the rounds from where
it ends come after it; what they contribute is joined in their order. Every round moves, so the
recursion is on the text that is left.
-/
namespace TextGrammar

structure Round where
  start : Cursor
  yield : Yield

def contributed (rounds : List Round) : List Value :=
  rounds.flatMap fun round => round.yield.flatten

@[simp] theorem contributed_nil : contributed [] = [] := rfl

@[simp] theorem contributed_cons (round : Round) (rounds : List Round) :
    contributed (round :: rounds) = round.yield.flatten ++ contributed rounds := rfl

theorem contributed_eq_nil_iff {rounds : List Round} :
    contributed rounds = [] ↔ ∀ round ∈ rounds, round.yield.flatten = [] := by
  simp [contributed, List.flatMap_eq_nil_iff]

section Rounds

variable [Engine] [Targets]

/-- The rounds of a repeated part, the cursor at which they stop and the object that they leave. At
the end of the text the part is not tried. A failure that can be recovered from ends the rounds
before it, with what it has bound; a round that does not move is a failure of its own. -/
def Node.iterate (m : Matcher) (depth : Nat) (part : Node) (object : Object) (cursor : Cursor) :
    Outcome (List Round) × Object :=
  if cursor.isAtEnd then (.ok ([], cursor), object)
  else
    match h : part.run (m.enter depth) object cursor with
    | (.error failure, after) =>
      if failure.isRecoverable then (.ok ([], cursor), after) else (.error failure, after)
    | (.ok (yield, next), between) =>
      if hsame : next.offset = cursor.offset then (.error (.noProgress cursor.offset), between)
      else
        have := (evaluates_iff_run.mpr h).reaches.length_lt hsame
        match iterate m depth part between next with
        | (.ok (rounds, last), after) => (.ok (⟨cursor, yield⟩ :: rounds, last), after)
        | (.error failure, after) => (.error failure, after)
termination_by cursor.rest.length

private def concludes (allowZero : Bool) (start : Nat) (values : List Value) (bound : Bool) :
    Outcome (List Round) → Outcome Yield
  | .ok (rounds, last) =>
    finishLoop allowZero start (values ++ contributed rounds)
      (bound || rounds.any fun round => round.yield.isTarget) last
  | .error failure => .error failure

/-- The accumulators of the loop stand before what the rounds still contribute. -/
private theorem iterate_evaluates (m : Matcher) (depth : Nat) (part : Node) (allowZero : Bool)
    (start : Nat) (values : List Value) (bound : Bool) (object : Object) (cursor : Cursor) :
    Evaluates m depth (.loop part allowZero start values bound) object cursor
      (concludes allowZero start values bound (part.iterate m depth object cursor).1)
      (part.iterate m depth object cursor).2 := by
  fun_induction Node.iterate m depth part object cursor generalizing values bound with
  | case1 object cursor hend =>
    simp only [concludes, contributed_nil, List.append_nil, List.any_nil, Bool.or_false]
    exact .loopEnd hend
  | case2 object cursor hend failure after hrun hrecover =>
    simp only [concludes, contributed_nil, List.append_nil, List.any_nil, Bool.or_false]
    exact .loopStop (by simpa using hend) (evaluates_iff_run.mpr hrun) hrecover
  | case3 object cursor hend failure after hrun hrecover =>
    exact .loopFail (by simpa using hend) (evaluates_iff_run.mpr hrun) (by simpa using hrecover)
  | case4 object cursor hend yield next between hrun hsame =>
    exact .loopStuck (by simpa using hend) (evaluates_iff_run.mpr hrun) hsame
  | case5 object cursor hend yield next between hrun hsame _ rounds last after hrest ih =>
    refine .loopStep (by simpa using hend) (evaluates_iff_run.mpr hrun) hsame ?_
    have hnext := ih (values ++ yield.flatten) (bound || yield.isTarget)
    rw [hrest] at hnext
    simpa only [concludes, contributed_cons, List.any_cons, List.append_assoc, Bool.or_assoc]
      using hnext
  | case6 object cursor hend yield next between hrun hsame _ failure after hrest ih =>
    refine .loopStep (by simpa using hend) (evaluates_iff_run.mpr hrun) hsame ?_
    have hnext := ih (values ++ yield.flatten) (bound || yield.isTarget)
    rw [hrest] at hnext
    exact hnext

namespace Node

variable {m : Matcher} {depth : Nat} {part : Node} {object after : Object} {cursor last : Cursor}
  {round : Round} {rounds : List Round}

theorem run_repetition (m : Matcher) (depth : Nat) (part : Node) (allowZero : Bool)
    (object : Object) (cursor : Cursor) :
    (Node.repetition part allowZero).run (m.enter depth) object cursor =
      match part.iterate m depth object cursor with
      | (.ok (rounds, last), after) =>
        if (contributed rounds).isEmpty && !(rounds.any fun round => round.yield.isTarget) &&
            !allowZero then
          (.error (.tooFew cursor.offset), after)
        else (.ok (.value (.sequence (contributed rounds)), last), after)
      | (.error failure, after) => (.error failure, after) := by
  have h := iterate_evaluates m depth part allowZero cursor.offset [] false object cursor
  rw [evaluates_iff_run.mp (.repetition h)]
  rcases part.iterate m depth object cursor with ⟨failure | ⟨rounds, last⟩, after⟩
  · rfl
  · simp only [concludes, finishLoop, List.nil_append, Bool.false_or]
    split <;> rfl

theorem iterate_of_isAtEnd (hend : cursor.isAtEnd = true) :
    part.iterate m depth object cursor = (.ok ([], cursor), object) := by
  rw [iterate, if_pos hend]

theorem iterate_of_not_isAtEnd (hend : cursor.isAtEnd = false) :
    part.iterate m depth object cursor =
      match part.run (m.enter depth) object cursor with
      | (.error failure, after) =>
        if failure.isRecoverable then (.ok ([], cursor), after) else (.error failure, after)
      | (.ok (yield, next), between) =>
        if next.offset = cursor.offset then (.error (.noProgress cursor.offset), between)
        else
          match part.iterate m depth between next with
          | (.ok (rounds, last), after) => (.ok (⟨cursor, yield⟩ :: rounds, last), after)
          | (.error failure, after) => (.error failure, after) := by
  rw [iterate, if_neg (by simp [hend])]
  split
  · next hrun => rw [hrun]
  · next yield next between hrun =>
    by_cases hsame : next.offset = cursor.offset <;>
      simp only [hrun, hsame, ↓reduceDIte, ↓reduceIte]

theorem iterate_of_round {yield : Yield} {next : Cursor} {between : Object}
    (hend : cursor.isAtEnd = false)
    (hrun : part.run (m.enter depth) object cursor = (.ok (yield, next), between))
    (hmoved : next.offset ≠ cursor.offset) :
    part.iterate m depth object cursor =
      match part.iterate m depth between next with
      | (.ok (rounds, last), after) => (.ok (⟨cursor, yield⟩ :: rounds, last), after)
      | (.error failure, after) => (.error failure, after) := by
  rw [iterate_of_not_isAtEnd hend, hrun]
  exact if_neg hmoved

theorem iterate_of_stop {failure : Failure} (hend : cursor.isAtEnd = false)
    (hrun : part.run (m.enter depth) object cursor = (.error failure, after))
    (hrecover : failure.isRecoverable = true) :
    part.iterate m depth object cursor = (.ok ([], cursor), after) := by
  rw [iterate_of_not_isAtEnd hend, hrun]
  exact if_pos hrecover

theorem iterate_of_stuck {yield : Yield} {next : Cursor} (hend : cursor.isAtEnd = false)
    (hrun : part.run (m.enter depth) object cursor = (.ok (yield, next), after))
    (hsame : next.offset = cursor.offset) :
    part.iterate m depth object cursor = (.error (.noProgress cursor.offset), after) := by
  rw [iterate_of_not_isAtEnd hend, hrun]
  exact if_pos hsame

theorem iterate_error_isFatal {failure : Failure}
    (h : part.iterate m depth object cursor = (.error failure, after)) :
    failure.isRecoverable = false := by
  fun_induction iterate m depth part object cursor generalizing failure after with
  | case1 | case2 | case5 => cases h
  | case3 object cursor _ failed left _ hrecover =>
    cases h
    simpa using hrecover
  | case4 =>
    cases h
    rfl
  | case6 object cursor _ yield next between _ _ _ failed left hrest ih =>
    cases h
    exact ih hrest

theorem iterate_eq_nil (h : part.iterate m depth object cursor = (.ok ([], last), after)) :
    last = cursor ∧
      (cursor.isAtEnd = true ∧ after = object ∨
        cursor.isAtEnd = false ∧ ∃ failure, failure.isRecoverable = true ∧
          part.run (m.enter depth) object cursor = (.error failure, after)) := by
  cases hend : cursor.isAtEnd with
  | true =>
    rw [iterate_of_isAtEnd hend] at h
    cases h
    exact ⟨rfl, .inl ⟨rfl, rfl⟩⟩
  | false =>
    rw [iterate_of_not_isAtEnd hend] at h
    rcases hrun : part.run (m.enter depth) object cursor with ⟨failure | ⟨yield, next⟩, between⟩
    · rw [hrun] at h
      dsimp only at h
      split at h
      · next hrecover =>
        cases h
        exact ⟨rfl, .inr ⟨rfl, failure, hrecover, rfl⟩⟩
      · cases h
    · rw [hrun] at h
      dsimp only at h
      split at h
      · cases h
      · split at h <;> cases h

theorem iterate_eq_cons
    (h : part.iterate m depth object cursor = (.ok (round :: rounds, last), after)) :
    ∃ next between, part.run (m.enter depth) object cursor = (.ok (round.yield, next), between) ∧
      round.start = cursor ∧ cursor.offset < next.offset ∧
      part.iterate m depth between next = (.ok (rounds, last), after) := by
  rw [iterate] at h
  split at h
  · cases h
  · split at h
    · split at h <;> cases h
    · next yield next between hrun =>
      split at h
      · cases h
      · next hmoved =>
        have hle := (evaluates_iff_run.mpr hrun).reaches.offset_le
        have hlt : cursor.offset < next.offset := by omega
        dsimp only at h
        split at h
        · next rest stop left hrest =>
          cases h
          exact ⟨next, between, hrun, rfl, hlt, hrest⟩
        · cases h

theorem iterate_reaches (h : part.iterate m depth object cursor = (.ok (rounds, last), after)) :
    cursor.Reaches last := by
  have hrun := run_repetition m depth part true object cursor
  simp only [h, Bool.not_true, Bool.and_false, Bool.false_eq_true, ↓reduceIte] at hrun
  exact (evaluates_iff_run.mpr hrun).reaches

theorem iterate_offset_lt
    (h : part.iterate m depth object cursor = (.ok (round :: rounds, last), after)) :
    cursor.offset < last.offset := by
  obtain ⟨next, between, _, _, hlt, hrest⟩ := iterate_eq_cons h
  have hle := (iterate_reaches hrest).offset_le
  omega

theorem noProgress_lt {node : Node} {position : Nat} {text : List Char} (hin : cursor.IsIn text)
    (h : node.run (m.enter depth) object cursor = (.error (.noProgress position), after)) :
    position < byteLength text := by
  have hlimit := (evaluates_iff_run.mpr h).withMaxDepth depth 0 (.inl rfl)
  exact (hlimit.endsJustified (Nat.le_refl depth) hin (Matcher.Occurs.self _ node)).1

/-- Repetition is greedy iteration. Without a minimum it comes to the rounds, which contribute in
their order, or to the failure that ends them. With a minimum it comes to the same, except that
rounds of which none contributes a value or yields the object come to too little. So a repetition
with a minimum that succeeds has consumed text, and a round that does not move, which is reported as
such, stands before the end of the text. -/
theorem repetition_iterates_greedily (m : Matcher) (depth : Nat) (part : Node) (object : Object)
    (cursor : Cursor) :
    ((Node.repetition part true).run (m.enter depth) object cursor =
      match part.iterate m depth object cursor with
      | (.ok (rounds, last), after) => (.ok (.value (.sequence (contributed rounds)), last), after)
      | (.error failure, after) => (.error failure, after)) ∧
    ((Node.repetition part false).run (m.enter depth) object cursor =
      match part.iterate m depth object cursor with
      | (.ok (rounds, last), after) =>
        if (contributed rounds).isEmpty && rounds.all fun round => !round.yield.isTarget then
          (.error (.tooFew cursor.offset), after)
        else (.ok (.value (.sequence (contributed rounds)), last), after)
      | (.error failure, after) => (.error failure, after)) ∧
    (∀ yield next after,
      (Node.repetition part false).run (m.enter depth) object cursor = (.ok (yield, next), after) →
        cursor.offset < next.offset) ∧
    ∀ text position, cursor.IsIn text →
      (part.iterate m depth object cursor).1 = .error (.noProgress position) →
        position < byteLength text := by
  refine ⟨?_, ?_, ?_, ?_⟩
  · rw [run_repetition]
    rcases part.iterate m depth object cursor with ⟨failure | ⟨rounds, last⟩, after⟩
    · rfl
    · simp
  · rw [run_repetition]
    rcases part.iterate m depth object cursor with ⟨failure | ⟨rounds, last⟩, after⟩
    · rfl
    · simp [List.not_any_eq_all_not]
  · intro yield next after h
    rw [run_repetition] at h
    rcases hrounds : part.iterate m depth object cursor with ⟨failure | ⟨rounds, last⟩, left⟩
    · rw [hrounds] at h
      cases h
    · rw [hrounds] at h
      cases rounds with
      | nil => cases h
      | cons round rounds =>
        dsimp only at h
        split at h
        · cases h
        · cases h
          exact iterate_offset_lt hrounds
  · intro text position hin h
    have hrun := run_repetition m depth part true object cursor
    rcases hrounds : part.iterate m depth object cursor with ⟨failure | ⟨rounds, last⟩, left⟩
    · rw [hrounds] at h hrun
      cases h
      exact noProgress_lt hin hrun
    · rw [hrounds] at h
      cases h

end Node

end Rounds

/-- Letters that may be missing: the second text has a character after them at which no round
moves. -/
theorem Node.repetition_iterates_greedily_letters :
    let m : Matcher := { }
    let part : Node := .optional (.terminal "x")
    let object := Object.record "test"
    (Node.repetition part false).run (m.enter 0) object (Cursor.start ['x', 'x']) =
        (.ok (.value (.sequence [.text "x", .text "x"]), ⟨2, []⟩), object) ∧
      (Cursor.start ['x', 'x']).offset < 2 ∧
      (part.iterate m 0 object (Cursor.start ['x', 'y'])).1 = .error (.noProgress 1) ∧
      1 < byteLength ['x', 'y'] := by
  intro m part object
  have hmatch : (Node.repetition part false).run (m.enter 0) object (Cursor.start ['x', 'x']) =
      (.ok (.value (.sequence [.text "x", .text "x"]), ⟨2, []⟩), object) := by rfl
  have hstuck : (part.iterate m 0 object (Cursor.start ['x', 'y'])).1 = .error (.noProgress 1) := by
    have hloop : (Node.repetition part true).run (m.enter 0) object (Cursor.start ['x', 'y']) =
        (.error (.noProgress 1), object) := by rfl
    rw [(repetition_iterates_greedily m 0 part object _).1] at hloop
    rcases hrounds : part.iterate m 0 object (Cursor.start ['x', 'y']) with
      ⟨failure | ⟨rounds, last⟩, after⟩ <;> rw [hrounds] at hloop <;> cases hloop
    rfl
  refine ⟨hmatch, ?_, hstuck, ?_⟩
  · exact (repetition_iterates_greedily m 0 part object _).2.2.1 _ _ _ hmatch
  · exact (repetition_iterates_greedily m 0 part object _).2.2.2 _ _ (.refl _) hstuck

end TextGrammar
