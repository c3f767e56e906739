import TextGrammar.Proofs.Unfolding
import TextGrammar.Terminal
/-!
# What a match sees

A match sees the text from its cursor on and nothing of what stands before it. The same text after
other text is matched alike, and all positions move by the bytes before it.
-/
namespace TextGrammar

def Failure.shift (bytes : Nat) : Failure → Failure
  | .mismatch pattern position => .mismatch pattern (bytes + position)
  | .noAlternative attempted position => .noAlternative attempted (bytes + position)
  | .tooFew position => .tooFew (bytes + position)
  | .noProgress position => .noProgress (bytes + position)
  | .tooDeep limit position => .tooDeep limit (bytes + position)
  | .trailingInput position => .trailingInput (bytes + position)
  | failure@(.unrecognized _) | failure@(.invalidPattern _)
  | failure@(.refusedBinding ..) => failure

@[simp] theorem Failure.isRecoverable_shift (bytes : Nat) (failure : Failure) :
    (failure.shift bytes).isRecoverable = failure.isRecoverable := by
  cases failure <;> rfl

def Cursor.shift (bytes : Nat) (cursor : Cursor) : Cursor := ⟨bytes + cursor.offset, cursor.rest⟩

theorem Cursor.shift_advance (bytes : Nat) (cursor : Cursor) (count : Nat) :
    (cursor.shift bytes).advance count = (cursor.advance count).shift bytes := by
  simp only [shift, advance, Nat.add_assoc]

theorem Cursor.advanceBytes?_append (before rest : List Char) :
    (start (before ++ rest)).advanceBytes? (byteLength before) =
      some ((start rest).shift (byteLength before)) := by
  have hdrop : dropBytes? (byteLength before) (before ++ rest) = some rest :=
    dropBytes?_eq_some_iff.mpr ⟨before, rfl, rfl⟩
  simp only [advanceBytes?, start, hdrop, Option.map_some, shift, Nat.zero_add, Nat.add_zero]

def shiftOutcome (bytes : Nat) : Outcome Yield → Outcome Yield
  | .ok (yield, next) => .ok (yield, next.shift bytes)
  | .error failure => .error (failure.shift bytes)

def Task.shift (bytes : Nat) : Task → Task
  | .loop part allowZero start values bound => .loop part allowZero (bytes + start) values bound
  | task => task

theorem matchTerminal_shift [Engine] (bytes : Nat) (pattern : String) (cursor : Cursor) :
    matchTerminal pattern (cursor.shift bytes) =
      shiftOutcome bytes (matchTerminal pattern cursor) := by
  have hrest : (cursor.shift bytes).rest = cursor.rest := rfl
  rw [matchTerminal, matchTerminal, hrest]
  cases Engine.compile pattern with
  | none => rfl
  | some program =>
    dsimp only
    cases Engine.matchLength? program cursor.rest with
    | none => rfl
    | some length =>
      simp only [shiftOutcome, Cursor.shift_advance]

theorem finishLoop_shift (bytes : Nat) (allowZero : Bool) (start : Nat) (values : List Value)
    (bound : Bool) (cursor : Cursor) :
    finishLoop allowZero (bytes + start) values bound (cursor.shift bytes) =
      shiftOutcome bytes (finishLoop allowZero start values bound cursor) := by
  unfold finishLoop
  split <;> rfl

/-- Both matches take the same way: terminals look at the text that is left, loops end with it, and
whether a step moved does not depend on where it started. -/
theorem Evaluates.shift [Engine] [Targets] {m : Matcher} {depth : Nat} {task : Task}
    {object after : Object} {cursor : Cursor} {outcome : Outcome Yield}
    (h : Evaluates m depth task object cursor outcome after) (bytes : Nat) :
    Evaluates m depth (task.shift bytes) object (cursor.shift bytes) (shiftOutcome bytes outcome)
      after := by
  induction h with
  | terminal pattern =>
    rw [← matchTerminal_shift]
    exact .terminal pattern
  | nested _ ih => exact .nested ih
  | rule _ ih => exact .rule ih
  | sequence _ ih => exact .sequence ih
  | sequenceFail _ ih => exact .sequenceFail ih
  | collect _ ih => exact .collect ih
  | alternation _ ih => exact .alternation ih
  | attributeBound _ hbind ih => exact .attributeBound ih hbind
  | attributeRefused _ hbind ih =>
    obtain ⟨_, rfl, _⟩ := bindYield_eq_error hbind
    exact .attributeRefused ih hbind
  | attributeFail _ ih => exact .attributeFail ih
  | ignore _ ih => exact .ignore ih
  | ignoreFail _ ih => exact .ignoreFail ih
  | optional _ ih => exact .optional ih
  | optionalSkip _ hrecover ih => exact .optionalSkip ih (by simpa using hrecover)
  | optionalFail _ hrecover ih => exact .optionalFail ih (by simpa using hrecover)
  | repetition _ ih => exact .repetition ih
  | allNil => exact .allNil
  | allCons _ _ ih ih' => exact .allCons ih ih'
  | allFail _ ih => exact .allFail ih
  | firstNil => exact .firstNil
  | firstOk _ ih => exact .firstOk ih
  | firstNext _ hrecover _ ih ih' => exact .firstNext ih (by simpa using hrecover) ih'
  | firstFail _ hrecover ih => exact .firstFail ih (by simpa using hrecover)
  | loopEnd hend =>
    rw [← finishLoop_shift]
    exact .loopEnd hend
  | loopStop hend _ hrecover ih =>
    rw [← finishLoop_shift]
    exact .loopStop hend ih (by simpa using hrecover)
  | loopStep hend _ hmoved _ ih ih' =>
    exact .loopStep hend ih (fun hsame => hmoved (Nat.add_left_cancel hsame)) ih'
  | loopStuck hend _ hmoved ih => exact .loopStuck hend ih (congrArg (bytes + ·) hmoved)
  | loopFail hend _ hrecover ih => exact .loopFail hend ih (by simpa using hrecover)
  | enterUnresolved hresolve =>
    obtain ⟨name, rfl, _, rfl⟩ := Matcher.resolve_eq_error hresolve
    exact .enterUnresolved hresolve
  | enterTooDeep hresolve => exact .enterTooDeep hresolve
  | enter hresolve _ ih => exact .enter hresolve ih
  | enterFail hresolve _ ih => exact .enterFail hresolve ih

theorem Matcher.matchNode_shift [Engine] [Targets] (m : Matcher) (node : Node) (object : Object)
    (cursor : Cursor) (bytes : Nat) :
    m.matchNode node object (cursor.shift bytes) =
      (shiftOutcome bytes (m.matchNode node object cursor).1,
        (m.matchNode node object cursor).2) :=
  evaluates_iff_run.mp ((evaluates_matchNode m node object cursor).shift bytes)

def putAfter (before : List Char) : TextOutcome → TextOutcome
  | .ok (yield, next) => .ok (yield, ⟨before ++ next.text, byteLength before + next.offset⟩)
  | .error failure => .error (failure.shift (byteLength before))

theorem inText_shiftOutcome (before rest : List Char) (outcome : Outcome Yield) :
    inText (before ++ rest) (shiftOutcome (byteLength before) outcome) =
      putAfter before (inText rest outcome) := by
  rcases outcome with failure | result <;> rfl

/-- A match sees only the text after its cursor. At the cursor past `before` it comes to the outcome
and the object of a match of the rest on its own, with all positions moved by the bytes of `before`.
So do the equations that have the whole text at hand and compare offsets with its length. -/
theorem Matcher.matchNode_sees_only_rest [Engine] [Targets] (m : Matcher) (node : Node)
    (object : Object) (before rest : List Char) :
    let alone := m.matchNode node object (Cursor.start rest)
    (∃ cursor, (Cursor.start (before ++ rest)).advanceBytes? (byteLength before) = some cursor ∧
      m.matchNode node object cursor = (shiftOutcome (byteLength before) alone.1, alone.2)) ∧
    ∃ enough, ∀ fuel, enough ≤ fuel →
      m.descend fuel node object ⟨rest, 0⟩ 0 = .ok (inText rest alone.1, alone.2) ∧
        m.descend fuel node object ⟨before ++ rest, byteLength before⟩ 0 =
          .ok (putAfter before (inText rest alone.1), alone.2) := by
  intro alone
  have hshift : m.matchNode node object ⟨byteLength before, rest⟩ =
      (shiftOutcome (byteLength before) alone.1, alone.2) :=
    m.matchNode_shift node object (Cursor.start rest) (byteLength before)
  refine ⟨⟨_, Cursor.advanceBytes?_append before rest, hshift⟩, ?_⟩
  obtain ⟨enough, halone⟩ := (m.descend_settles node object [] rest).enough
  obtain ⟨enough', hafter⟩ := (m.descend_settles node object before rest).enough
  rw [hshift, inText_shiftOutcome] at hafter
  refine ⟨max enough enough', ?_⟩
  intro fuel hfuel
  exact ⟨halone fuel (by omega), hafter fuel (by omega)⟩

-- The letter is two bytes long, and the failure is reported behind it.
example : Matcher.matchNode { } (.collect [.terminal "a", .terminal "b"]) (Object.record "item")
    ⟨byteLength ['é'], ['a', 'c']⟩ = (.error (.mismatch "b" 3), Object.record "item") := rfl

end TextGrammar
