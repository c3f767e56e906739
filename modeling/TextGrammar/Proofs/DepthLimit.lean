import TextGrammar.Proofs.Unfolding
import TextGrammar.Terminal
/-!
# The limit on nesting

The limit of a matcher cuts matches off and does nothing else. A match that does not run into it
is the same under every larger limit, and only the levels that are left to spare matter: the limit
itself shows in nothing but the failure that reports it.
-/
namespace TextGrammar

def Failure.withLimit (limit : Nat) : Failure → Failure
  | .tooDeep _ position => .tooDeep limit position
  | failure => failure

@[simp] theorem Failure.isRecoverable_withLimit (limit : Nat) (failure : Failure) :
    (failure.withLimit limit).isRecoverable = failure.isRecoverable := by
  cases failure <;> rfl

def Matcher.withMaxDepth (m : Matcher) (limit : Nat) : Matcher := { m with maxDepth := limit }

/-- What a match comes to under another limit, with as many levels to spare. -/
abbrev relimit {Place : Type} (limit : Nat) :
    Except Failure (Yield × Place) → Except Failure (Yield × Place) :=
  Except.mapError (Failure.withLimit limit)

private theorem relimit_matchTerminal [Engine] (limit : Nat) (pattern : String) (cursor : Cursor) :
    relimit limit (matchTerminal pattern cursor) = matchTerminal pattern cursor := by
  obtain ⟨_, h⟩ | ⟨_, _, ⟨_, h⟩ | ⟨_, _, h⟩⟩ := matchTerminal_cases pattern cursor <;>
  · rw [h]
    rfl

private theorem relimit_finishLoop (limit : Nat) (allowZero : Bool) (start : Nat)
    (values : List Value) (bound : Bool) (cursor : Cursor) :
    relimit limit (finishLoop allowZero start values bound cursor) =
      finishLoop allowZero start values bound cursor := by
  rcases finishLoop_cases allowZero start values bound cursor with h | h <;>
  · rw [h]
    rfl

def WithinLimit (outcome : Outcome Yield) : Prop :=
  ∀ limit position, outcome ≠ .error (.tooDeep limit position)

namespace WithinLimit

theorem ok (result : Yield × Cursor) : WithinLimit (.ok result) := nofun

theorem of_isRecoverable {failure : Failure} (h : failure.isRecoverable = true) :
    WithinLimit (.error failure) := by
  rintro limit position ⟨⟩
  cases h

theorem relimit_eq {outcome : Outcome Yield} (h : WithinLimit outcome) (limit : Nat) :
    relimit limit outcome = outcome := by
  rcases outcome with failure | result
  · cases failure with
    | tooDeep limit position => exact absurd rfl (h limit position)
    | _ => rfl
  · rfl

end WithinLimit

section Limits

variable [Engine] [Targets]

/-- Under another limit a match goes the same way with the same levels to spare, and with more of
them if it has not run into the limit. A failure that is recovered from is not about the limit, so
in the second case no part of the match has run into it either. -/
theorem Evaluates.withMaxDepth {m : Matcher} {depth : Nat} {task : Task} {object after : Object}
    {cursor : Cursor} {outcome : Outcome Yield}
    (h : Evaluates m depth task object cursor outcome after) (limit extra : Nat)
    (hspare : extra = 0 ∨ WithinLimit outcome) :
    Evaluates (m.withMaxDepth limit) (depth + extra) task object cursor (relimit limit outcome)
      after := by
  induction h with
  | terminal pattern =>
    rw [relimit_matchTerminal]
    exact .terminal pattern
  | nested _ ih => exact .nested (ih hspare)
  | rule _ ih => exact .rule (ih hspare)
  | sequence _ ih => exact .sequence (ih (.inr (.ok _)))
  | sequenceFail _ ih => exact .sequenceFail (ih hspare)
  | collect _ ih => exact .collect (ih hspare)
  | alternation _ ih => exact .alternation (ih hspare)
  | attributeBound _ hbind ih => exact .attributeBound (ih (.inr (.ok _))) hbind
  | attributeRefused _ hbind ih =>
    obtain ⟨_, rfl, _⟩ := bindYield_eq_error hbind
    exact .attributeRefused (ih (.inr (.ok _))) hbind
  | attributeFail _ ih => exact .attributeFail (ih hspare)
  | ignore _ ih => exact .ignore (ih (.inr (.ok _)))
  | ignoreFail _ ih => exact .ignoreFail (ih hspare)
  | optional _ ih => exact .optional (ih hspare)
  | optionalSkip _ hrecover ih =>
    exact .optionalSkip (ih (.inr (.of_isRecoverable hrecover))) (by simpa using hrecover)
  | optionalFail _ hrecover ih => exact .optionalFail (ih hspare) (by simpa using hrecover)
  | repetition _ ih => exact .repetition (ih hspare)
  | allNil => exact .allNil
  | allCons _ _ ih ih' => exact .allCons (ih (.inr (.ok _))) (ih' hspare)
  | allFail _ ih => exact .allFail (ih hspare)
  | firstNil => exact .firstNil
  | firstOk _ ih => exact .firstOk (ih hspare)
  | firstNext _ hrecover _ ih ih' =>
    exact .firstNext (ih (.inr (.of_isRecoverable hrecover))) (by simpa using hrecover)
      (ih' hspare)
  | firstFail _ hrecover ih => exact .firstFail (ih hspare) (by simpa using hrecover)
  | loopEnd hend =>
    rw [relimit_finishLoop]
    exact .loopEnd hend
  | loopStop hend _ hrecover ih =>
    rw [relimit_finishLoop]
    exact .loopStop hend (ih (.inr (.of_isRecoverable hrecover))) (by simpa using hrecover)
  | loopStep hend _ hmoved _ ih ih' =>
    exact .loopStep hend (ih (.inr (.ok _))) hmoved (ih' hspare)
  | loopStuck hend _ hmoved ih => exact .loopStuck hend (ih (.inr (.ok _))) hmoved
  | loopFail hend _ hrecover ih => exact .loopFail hend (ih hspare) (by simpa using hrecover)
  | enterUnresolved hresolve =>
    obtain ⟨name, rfl, _, rfl⟩ := Matcher.resolve_eq_error hresolve
    exact .enterUnresolved hresolve
  | enterTooDeep hresolve =>
    rcases hspare with rfl | hwithin
    · exact .enterTooDeep hresolve
    · exact absurd rfl (hwithin _ _)
  | enter hresolve _ ih =>
    rw [Nat.add_right_comm]
    exact .enter hresolve (ih (.inr (.ok _)))
  | enterFail hresolve _ ih =>
    rw [Nat.add_right_comm]
    exact .enterFail hresolve (ih hspare)

theorem Evaluates.limit_eq_maxDepth {m : Matcher} {depth : Nat} {task : Task}
    {object after : Object} {cursor : Cursor} {limit position : Nat}
    (h : Evaluates m depth task object cursor (.error (.tooDeep limit position)) after) :
    limit = m.maxDepth := by
  obtain ⟨hsame, _⟩ := h.unique (h.withMaxDepth m.maxDepth 0 (.inl rfl))
  cases hsame
  rfl

theorem Matcher.matchNode_of_le {m : Matcher} {limit limit' : Nat} (hle : limit ≤ limit')
    {node : Node} {object : Object} {cursor : Cursor}
    (hwithin : WithinLimit ((m.withMaxDepth limit).matchNode node object cursor).1) :
    (m.withMaxDepth limit').matchNode node object cursor =
      (m.withMaxDepth limit).matchNode node object cursor := by
  obtain ⟨extra, rfl⟩ := Nat.exists_eq_add_of_le hle
  have hsmall := evaluates_matchNode (m.withMaxDepth limit) node object cursor
  have hlarge := hsmall.withMaxDepth (limit + extra) extra (.inr hwithin)
  rw [hwithin.relimit_eq] at hlarge
  exact evaluates_iff_run.mp hlarge

omit [Engine] [Targets] in
theorem inText_relimit (text : List Char) (limit : Nat) (outcome : Outcome Yield) :
    inText text (relimit limit outcome) = relimit limit (inText text outcome) := by
  rcases outcome with failure | result <;> rfl

/-- After `depth` references the equations go on as they start under a limit that is lower by as
many levels. -/
theorem Matcher.descend_settles_at (m : Matcher) {depth limit : Nat} (hdepth : depth ≤ limit)
    (node : Node) (object : Object) (before rest : List Char) :
    let lower := (m.withMaxDepth (limit - depth)).matchNode node object ⟨byteLength before, rest⟩
    Settles (fun fuel => (m.withMaxDepth limit).descend fuel node object
        ⟨before ++ rest, byteLength before⟩ depth)
      (relimit limit (inText (before ++ rest) lower.1), lower.2) := by
  intro lower
  have h := (evaluates_matchNode (m.withMaxDepth (limit - depth)) node object
    ⟨byteLength before, rest⟩).withMaxDepth limit 0 (.inl rfl)
  rw [← inText_relimit]
  exact h.settles (Nat.add_sub_cancel' hdepth) (Cursor.isIn_append before rest)

/-- The limit on nesting only cuts: a match that does not run into it comes to the same outcome
and the same object under every larger limit. The failure that reports the limit names the limit
of the matcher. A match at some depth is the match from depth zero under a limit lower by that
depth, but for the limit that is reported. -/
theorem Matcher.maxDepth_only_cuts (m : Matcher) (node : Node) (object : Object)
    (before rest : List Char) :
    (∀ limit limit', limit ≤ limit' →
      (∀ reported position,
        ((m.withMaxDepth limit).matchNode node object ⟨byteLength before, rest⟩).1 ≠
          .error (.tooDeep reported position)) →
      (m.withMaxDepth limit').matchNode node object ⟨byteLength before, rest⟩ =
        (m.withMaxDepth limit).matchNode node object ⟨byteLength before, rest⟩) ∧
    (∀ limit spare reported position,
      (node.run ((m.withMaxDepth limit).enter spare) object ⟨byteLength before, rest⟩).1 =
        .error (.tooDeep reported position) → reported = limit) ∧
    (∀ depth limit, depth ≤ limit → ∃ outcome after enough, ∀ fuel, enough ≤ fuel →
      (m.withMaxDepth (limit - depth)).descend fuel node object
          ⟨before ++ rest, byteLength before⟩ 0 = .ok (outcome, after) ∧
        (m.withMaxDepth limit).descend fuel node object
          ⟨before ++ rest, byteLength before⟩ depth = .ok (relimit limit outcome, after)) := by
  refine ⟨?_, ?_, ?_⟩
  · intro limit limit' hle hwithin
    exact matchNode_of_le hle hwithin
  · intro limit spare reported position hdeep
    exact (evaluates_iff_run.mpr (Prod.ext hdeep rfl)).limit_eq_maxDepth
  · intro depth limit hdepth
    let lower := m.withMaxDepth (limit - depth)
    let result := lower.matchNode node object ⟨byteLength before, rest⟩
    obtain ⟨enough, henough⟩ := (lower.descend_settles node object before rest).enough
    obtain ⟨enough', henough'⟩ := (m.descend_settles_at hdepth node object before rest).enough
    refine ⟨inText (before ++ rest) result.1, result.2, max enough enough', ?_⟩
    intro fuel hfuel
    exact ⟨henough fuel (by omega), henough' fuel (by omega)⟩

end Limits

theorem Matcher.maxDepth_only_cuts_nested :
    let body : Node := .collect [.terminal "a", .optional (.rule "item")]
    let m : Matcher := { rules := [("item", body)] }
    let node : Node := .optional (.rule "item")
    let object := Object.record "test"
    let cursor : Cursor := ⟨byteLength [], ['a', 'a']⟩
    (m.withMaxDepth 7).matchNode node object cursor =
        (m.withMaxDepth 3).matchNode node object cursor ∧
      (∃ reported position, ((m.withMaxDepth 2).matchNode node object cursor).1 =
        .error (.tooDeep reported position) ∧ reported = 2) ∧
      (∃ outcome after enough, ∀ fuel, enough ≤ fuel →
        (m.withMaxDepth 1).descend fuel node object ⟨['a', 'a'], 0⟩ 0 = .ok (outcome, after) ∧
          (m.withMaxDepth 3).descend fuel node object ⟨['a', 'a'], 0⟩ 2 =
            .ok (relimit 3 outcome, after)) := by
  intro body m node object cursor
  have hdeep : ((m.withMaxDepth 2).matchNode node object cursor).1 = .error (.tooDeep 2 2) := by
    rfl
  obtain ⟨hsame, hreported, hshift⟩ := m.maxDepth_only_cuts node object [] ['a', 'a']
  refine ⟨?_, ⟨2, 2, hdeep, ?_⟩, ?_⟩
  · exact hsame 3 7 (by omega) nofun
  · exact hreported 2 2 2 2 hdeep
  · exact hshift 2 3 (by omega)

end TextGrammar
