import TextGrammar.Matching.Matcher
import TextGrammar.Proofs.Cursor
/-!
# Evaluations

A match as a derivation: one rule for each way in which a node, a list of parts, a loop or a
reference can end. Derivations and runs determine each other, so a property of all matches,
through every reference that is followed, is proved by one induction on derivations.
-/
namespace TextGrammar

/-- The nodes directly below a node; references are not followed. -/
def Node.children : Node → List Node
  | .terminal _ | .nested _ | .rule _ => []
  | .sequence parts | .collect parts | .alternation parts => parts
  | .attribute _ part | .ignore part | .optional part | .repetition part _ => [part]

/-- What a match is at work on. -/
inductive Task where
  | node (node : Node)
  /-- Parts to be matched one after the other, and what those before them have yielded. -/
  | all (values : List Value) (parts : List Node)
  /-- The parts of an alternation, and those of them that have not been tried. -/
  | first (parts untried : List Node)
  /-- A repetition that started at the offset `start`, and what its steps have yielded. -/
  | loop (part : Node) (allowZero : Bool) (start : Nat) (values : List Value) (bound : Bool)
  | enter (reference : Reference)

def Task.nodes : Task → List Node
  | .node grammar => [grammar]
  | .all _ parts => parts
  | .first _ untried => untried
  | .loop part .. => [part]
  | .enter (.rule name) => [.rule name]
  | .enter (.type name) => [.nested name]

def Task.values : Task → List Value
  | .all values _ | .loop _ _ _ values _ => values
  | .node _ | .first .. | .enter _ => []

def finishLoop {Place : Type} (allowZero : Bool) (start : Nat) (values : List Value)
    (bound : Bool) (cursor : Place) : Except Failure (Yield × Place) :=
  if values.isEmpty && !bound && !allowZero then .error (.tooFew start)
  else .ok (.value (.sequence values), cursor)

/-- With `depth` levels of nesting to spare, the task on an object at a cursor ends in an outcome
and leaves an object behind. -/
inductive Evaluates [Engine] [Targets] (m : Matcher) :
    (depth : Nat) → Task → Object → Cursor → Outcome Yield → Object → Prop
  | terminal {depth object cursor} (pattern : String) :
    Evaluates m depth (.node (.terminal pattern)) object cursor
      (matchTerminal pattern cursor) object
  | nested {depth object cursor type outcome} :
    Evaluates m depth (.enter (.type type)) object cursor outcome object →
    Evaluates m depth (.node (.nested type)) object cursor outcome object
  | rule {depth object cursor name outcome} :
    Evaluates m depth (.enter (.rule name)) object cursor outcome object →
    Evaluates m depth (.node (.rule name)) object cursor outcome object
  | sequence {depth object cursor parts yield next after} :
    Evaluates m depth (.all [] parts) object cursor (.ok (yield, next)) after →
    Evaluates m depth (.node (.sequence parts)) object cursor (.ok (.target, next)) after
  | sequenceFail {depth object cursor parts failure after} :
    Evaluates m depth (.all [] parts) object cursor (.error failure) after →
    Evaluates m depth (.node (.sequence parts)) object cursor (.error failure) after
  | collect {depth object cursor parts outcome after} :
    Evaluates m depth (.all [] parts) object cursor outcome after →
    Evaluates m depth (.node (.collect parts)) object cursor outcome after
  | alternation {depth object cursor parts outcome after} :
    Evaluates m depth (.first parts parts) object cursor outcome after →
    Evaluates m depth (.node (.alternation parts)) object cursor outcome after
  | attributeBound {depth object cursor name part yield next after bound} :
    Evaluates m depth (.node part) object cursor (.ok (yield, next)) after →
    bindYield name yield after = (.ok (), bound) →
    Evaluates m depth (.node (.attribute name part)) object cursor (.ok (.target, next)) bound
  | attributeRefused {depth object cursor name part yield next after failure refused} :
    Evaluates m depth (.node part) object cursor (.ok (yield, next)) after →
    bindYield name yield after = (.error failure, refused) →
    Evaluates m depth (.node (.attribute name part)) object cursor (.error failure) refused
  | attributeFail {depth object cursor name part failure after} :
    Evaluates m depth (.node part) object cursor (.error failure) after →
    Evaluates m depth (.node (.attribute name part)) object cursor (.error failure) after
  | ignore {depth object cursor part yield next after} :
    Evaluates m depth (.node part) object cursor (.ok (yield, next)) after →
    Evaluates m depth (.node (.ignore part)) object cursor (.ok (.value .empty, next)) after
  | ignoreFail {depth object cursor part failure after} :
    Evaluates m depth (.node part) object cursor (.error failure) after →
    Evaluates m depth (.node (.ignore part)) object cursor (.error failure) after
  | optional {depth object cursor part result after} :
    Evaluates m depth (.node part) object cursor (.ok result) after →
    Evaluates m depth (.node (.optional part)) object cursor (.ok result) after
  | optionalSkip {depth object cursor part failure after} :
    Evaluates m depth (.node part) object cursor (.error failure) after →
    failure.isRecoverable = true →
    Evaluates m depth (.node (.optional part)) object cursor (.ok (.value .empty, cursor)) after
  | optionalFail {depth object cursor part failure after} :
    Evaluates m depth (.node part) object cursor (.error failure) after →
    failure.isRecoverable = false →
    Evaluates m depth (.node (.optional part)) object cursor (.error failure) after
  | repetition {depth object cursor part allowZero outcome after} :
    Evaluates m depth (.loop part allowZero cursor.offset [] false) object cursor outcome after →
    Evaluates m depth (.node (.repetition part allowZero)) object cursor outcome after
  | allNil {depth object cursor values} :
    Evaluates m depth (.all values []) object cursor
      (.ok (.value (.sequence values), cursor)) object
  | allCons {depth object cursor values part parts yield next between outcome after} :
    Evaluates m depth (.node part) object cursor (.ok (yield, next)) between →
    Evaluates m depth (.all (values ++ yield.flatten) parts) between next outcome after →
    Evaluates m depth (.all values (part :: parts)) object cursor outcome after
  | allFail {depth object cursor values part parts failure after} :
    Evaluates m depth (.node part) object cursor (.error failure) after →
    Evaluates m depth (.all values (part :: parts)) object cursor (.error failure) after
  | firstNil {depth object cursor parts} :
    Evaluates m depth (.first parts []) object cursor
      (.error (.noAlternative (parts.map Node.render) cursor.offset)) object
  | firstOk {depth object cursor parts part untried result after} :
    Evaluates m depth (.node part) object cursor (.ok result) after →
    Evaluates m depth (.first parts (part :: untried)) object cursor (.ok result) after
  | firstNext {depth object cursor parts part untried failure between outcome after} :
    Evaluates m depth (.node part) object cursor (.error failure) between →
    failure.isRecoverable = true →
    Evaluates m depth (.first parts untried) between cursor outcome after →
    Evaluates m depth (.first parts (part :: untried)) object cursor outcome after
  | firstFail {depth object cursor parts part untried failure after} :
    Evaluates m depth (.node part) object cursor (.error failure) after →
    failure.isRecoverable = false →
    Evaluates m depth (.first parts (part :: untried)) object cursor (.error failure) after
  | loopEnd {depth object cursor part allowZero start values bound} :
    cursor.isAtEnd = true →
    Evaluates m depth (.loop part allowZero start values bound) object cursor
      (finishLoop allowZero start values bound cursor) object
  | loopStop {depth object cursor part allowZero start values bound failure after} :
    cursor.isAtEnd = false →
    Evaluates m depth (.node part) object cursor (.error failure) after →
    failure.isRecoverable = true →
    Evaluates m depth (.loop part allowZero start values bound) object cursor
      (finishLoop allowZero start values bound cursor) after
  | loopStep {depth object cursor part allowZero start values bound yield next between
      outcome after} :
    cursor.isAtEnd = false →
    Evaluates m depth (.node part) object cursor (.ok (yield, next)) between →
    next.offset ≠ cursor.offset →
    Evaluates m depth
      (.loop part allowZero start (values ++ yield.flatten) (bound || yield.isTarget))
      between next outcome after →
    Evaluates m depth (.loop part allowZero start values bound) object cursor outcome after
  | loopStuck {depth object cursor part allowZero start values bound yield next after} :
    cursor.isAtEnd = false →
    Evaluates m depth (.node part) object cursor (.ok (yield, next)) after →
    next.offset = cursor.offset →
    Evaluates m depth (.loop part allowZero start values bound) object cursor
      (.error (.noProgress cursor.offset)) after
  | loopFail {depth object cursor part allowZero start values bound failure after} :
    cursor.isAtEnd = false →
    Evaluates m depth (.node part) object cursor (.error failure) after →
    failure.isRecoverable = false →
    Evaluates m depth (.loop part allowZero start values bound) object cursor
      (.error failure) after
  | enterUnresolved {depth object cursor reference failure} :
    m.resolve reference = .error failure →
    Evaluates m depth (.enter reference) object cursor (.error failure) object
  | enterTooDeep {object cursor reference resolved} :
    m.resolve reference = .ok resolved →
    Evaluates m 0 (.enter reference) object cursor
      (.error (.tooDeep m.maxDepth cursor.offset)) object
  | enter {depth object cursor reference grammar fresh yield next built} :
    m.resolve reference = .ok (grammar, fresh) →
    Evaluates m depth (.node grammar) fresh cursor (.ok (yield, next)) built →
    Evaluates m (depth + 1) (.enter reference) object cursor
      (.ok (.value built.toValue, next)) object
  | enterFail {depth object cursor reference grammar fresh failure built} :
    m.resolve reference = .ok (grammar, fresh) →
    Evaluates m depth (.node grammar) fresh cursor (.error failure) built →
    Evaluates m (depth + 1) (.enter reference) object cursor (.error failure) object

/-- Both derivations follow the same rules: the premises decide which rule applies, and the
premises agree by induction. -/
theorem Evaluates.unique [Engine] [Targets] {m : Matcher} {depth : Nat} {task : Task}
    {object : Object} {cursor : Cursor} {outcome outcome' : Outcome Yield} {after after' : Object}
    (h : Evaluates m depth task object cursor outcome after)
    (h' : Evaluates m depth task object cursor outcome' after') :
    outcome = outcome' ∧ after = after' := by
  induction h generalizing outcome' after' <;> cases h' <;> grind

/-! ## The steps of a match -/

theorem matchTerminal_cases [Engine] (pattern : String) (cursor : Cursor) :
    (Engine.compile pattern = none ∧
      matchTerminal pattern cursor = .error (.invalidPattern pattern)) ∨
    ∃ program, Engine.compile pattern = some program ∧
      (Engine.matchLength? program cursor.rest = none ∧
          matchTerminal pattern cursor = .error (.mismatch pattern cursor.offset) ∨
        ∃ length, Engine.matchLength? program cursor.rest = some length ∧
          matchTerminal pattern cursor =
            .ok (.value (.text (String.ofList (cursor.rest.take length))),
              cursor.advance length)) := by
  unfold matchTerminal
  cases hcompile : Engine.compile pattern with
  | none => exact .inl ⟨rfl, rfl⟩
  | some program =>
    refine .inr ⟨program, rfl, ?_⟩
    cases hlength : Engine.matchLength? program cursor.rest with
    | none => exact .inl ⟨rfl, by simp only [hlength]⟩
    | some length => exact .inr ⟨length, rfl, by simp only [hlength]⟩

theorem bindYield_eq_ok [Targets] {name : String} {yield : Yield} {object bound : Object}
    (h : bindYield name yield object = (.ok (), bound)) :
    ∃ value, yield = .value value ∧ Targets.set object name value = (.ok (), bound) := by
  cases yield with
  | target => cases h
  | value value =>
    refine ⟨value, rfl, ?_⟩
    simp only [bindYield] at h
    rcases hset : Targets.set object name value with ⟨reason | _, answered⟩ <;>
      rw [hset] at h <;> cases h
    rfl

theorem bindYield_eq_error [Targets] {name : String} {yield : Yield} {object refused : Object}
    {failure : Failure} (h : bindYield name yield object = (.error failure, refused)) :
    ∃ reason, failure = .refusedBinding refused.kind name reason ∧
      (yield = .target ∧ reason = .selfReference ∧ refused = object ∨
        ∃ value, yield = .value value ∧
          Targets.set object name value = (.error reason, refused)) := by
  cases yield with
  | target =>
    cases h
    exact ⟨_, rfl, .inl ⟨rfl, rfl, rfl⟩⟩
  | value value =>
    simp only [bindYield] at h
    rcases hset : Targets.set object name value with ⟨reason | _, answered⟩ <;>
      rw [hset] at h <;> cases h
    exact ⟨reason, rfl, .inr ⟨value, rfl, hset⟩⟩

theorem bindYield_record_eq_ok [Targets] {name kind : String} {attributes : NameMap Value}
    {yield : Yield} {bound : Object}
    (h : bindYield name yield ⟨kind, .record, attributes⟩ = (.ok (), bound)) :
    ∃ value, yield = .value value ∧ bound = ⟨kind, .record, attributes.insert name value⟩ := by
  obtain ⟨value, rfl, hset⟩ := bindYield_eq_ok h
  rw [Targets.set_record] at hset
  cases hset
  exact ⟨value, rfl, rfl⟩

theorem bindYield_record_eq_error [Targets] {name kind : String} {attributes : NameMap Value}
    {yield : Yield} {failure : Failure} {refused : Object}
    (h : bindYield name yield ⟨kind, .record, attributes⟩ = (.error failure, refused)) :
    yield = .target ∧ failure = .refusedBinding kind name .selfReference ∧
      refused = ⟨kind, .record, attributes⟩ := by
  obtain ⟨reason, rfl, ⟨rfl, rfl, rfl⟩ | ⟨value, _, hset⟩⟩ := bindYield_eq_error h
  · exact ⟨rfl, rfl, rfl⟩
  · rw [Targets.set_record] at hset
    cases hset

/-- Only rules can be undefined; every name stands for a type. -/
theorem Matcher.resolve_eq_error {m : Matcher} {reference : Reference} {failure : Failure}
    (h : m.resolve reference = .error failure) :
    ∃ name, reference = .rule name ∧ m.rules.find? name = none ∧
      failure = .undefinedRule name := by
  cases reference with
  | type name => cases h
  | rule name =>
    refine ⟨name, rfl, ?_⟩
    simp only [Matcher.resolve] at h
    cases hfind : m.rules.find? name with
    | none => rw [hfind] at h; cases h; exact ⟨rfl, rfl⟩
    | some grammar => rw [hfind] at h; cases h

theorem Matcher.resolve_rule_eq_ok {m : Matcher} {name : String} {grammar : Node} {fresh : Object}
    (h : m.resolve (.rule name) = .ok (grammar, fresh)) :
    m.rules.find? name = some grammar ∧ fresh = Object.record name := by
  simp only [Matcher.resolve] at h
  cases hfind : m.rules.find? name with
  | none => rw [hfind] at h; cases h
  | some found => rw [hfind] at h; cases h; exact ⟨rfl, rfl⟩

theorem finishLoop_cases (allowZero : Bool) (start : Nat) (values : List Value) (bound : Bool)
    (cursor : Cursor) :
    finishLoop allowZero start values bound cursor = .error (.tooFew start) ∨
      finishLoop allowZero start values bound cursor = .ok (.value (.sequence values), cursor) := by
  unfold finishLoop
  split
  · exact .inl rfl
  · exact .inr rfl

/-! ## Where outcomes lie -/

/-- A match ends where the characters from `cursor` on lead, and a failure is about a position to
which the characters from `origin` on lead. -/
def Located (origin cursor : Cursor) : Outcome Yield → Prop
  | .ok (_, next) => cursor.Reaches next
  | .error failure => ∀ position, failure.position? = some position →
      ∃ place, origin.Reaches place ∧ place.offset = position

def Task.StartsAt (origin : Cursor) : Task → Prop
  | .loop _ _ start _ _ => start = origin.offset
  | _ => True

theorem Located.mono {origin origin' cursor cursor' : Cursor} {outcome : Outcome Yield}
    (h : Located origin cursor outcome) (horigin : origin'.Reaches origin)
    (hcursor : cursor'.Reaches cursor) : Located origin' cursor' outcome := by
  cases outcome with
  | ok result => exact hcursor.trans h
  | error failure =>
    intro position hposition
    obtain ⟨place, hplace, hoffset⟩ := h position hposition
    exact ⟨place, horigin.trans hplace, hoffset⟩

private theorem located_at {origin cursor place : Cursor} {failure : Failure}
    (hplace : origin.Reaches place)
    (h : ∀ position, failure.position? = some position → place.offset = position) :
    Located origin cursor (.error failure) :=
  fun position hposition => ⟨place, hplace, h position hposition⟩

private theorem matchTerminal_located [Engine] (pattern : String) {origin cursor : Cursor}
    (horigin : origin.Reaches cursor) :
    Located origin cursor (matchTerminal pattern cursor) := by
  obtain ⟨_, hinvalid⟩ | ⟨program, _, ⟨_, hmismatch⟩ | ⟨length, _, hmatch⟩⟩ :=
    matchTerminal_cases pattern cursor
  · rw [hinvalid]
    exact located_at horigin (by simp [Failure.position?])
  · rw [hmismatch]
    exact located_at horigin (by simp [Failure.position?])
  · rw [hmatch]
    exact cursor.reaches_advance length

private theorem finishLoop_located {allowZero : Bool} {start : Nat} {values : List Value}
    {bound : Bool} {origin cursor : Cursor} (hstart : start = origin.offset) :
    Located origin cursor (finishLoop allowZero start values bound cursor) := by
  rcases finishLoop_cases allowZero start values bound cursor with h | h
  · rw [h]
    exact located_at (.refl origin) (by simp [Failure.position?, hstart])
  · rw [h]
    exact .refl cursor

theorem Evaluates.located [Engine] [Targets] {m : Matcher} {depth : Nat} {task : Task}
    {object : Object} {cursor : Cursor} {outcome : Outcome Yield} {after : Object}
    (h : Evaluates m depth task object cursor outcome after) :
    ∀ {origin : Cursor}, origin.Reaches cursor → task.StartsAt origin →
      Located origin cursor outcome := by
  induction h with
  | terminal pattern =>
    intro origin horigin _
    exact matchTerminal_located pattern horigin
  | nested _ ih | rule _ ih | collect _ ih | alternation _ ih | sequence _ ih | sequenceFail _ ih
  | attributeBound _ _ ih | attributeFail _ ih | ignore _ ih | ignoreFail _ ih | optional _ ih
  | optionalFail _ _ ih | firstOk _ ih | firstFail _ _ ih | enter _ _ ih | enterFail _ _ ih
  | allFail _ ih | loopFail _ _ _ ih =>
    intro origin horigin _
    exact ih horigin trivial
  | attributeRefused _ hbind ih =>
    intro origin horigin _
    obtain ⟨reason, rfl, _⟩ := bindYield_eq_error hbind
    exact located_at horigin (by simp [Failure.position?])
  | optionalSkip | allNil =>
    intro origin _ _
    exact .refl _
  | repetition _ ih =>
    intro origin horigin _
    exact (ih (.refl _) rfl).mono horigin (.refl _)
  | allCons _ _ ih ih' =>
    intro origin horigin _
    have hnext := ih horigin trivial
    exact (ih' (horigin.trans hnext) trivial).mono (.refl _) hnext
  | firstNil =>
    intro origin horigin _
    exact located_at horigin (by simp [Failure.position?])
  | firstNext _ _ _ _ ih' =>
    intro origin horigin _
    exact ih' horigin trivial
  | loopEnd | loopStop =>
    intro origin _ hstart
    exact finishLoop_located hstart
  | loopStep _ _ _ _ ih ih' =>
    intro origin horigin hstart
    have hnext := ih horigin trivial
    exact (ih' (horigin.trans hnext) hstart).mono (.refl _) hnext
  | loopStuck | enterTooDeep =>
    intro origin horigin _
    exact located_at horigin (by simp [Failure.position?])
  | enterUnresolved hresolve =>
    intro origin horigin _
    obtain ⟨name, _, _, rfl⟩ := Matcher.resolve_eq_error hresolve
    exact located_at horigin (by simp [Failure.position?, Failure.undefinedRule])

theorem Evaluates.reaches [Engine] [Targets] {m : Matcher} {depth : Nat} {node : Node}
    {object : Object} {cursor next : Cursor} {yield : Yield} {after : Object}
    (h : Evaluates m depth (.node node) object cursor (.ok (yield, next)) after) :
    cursor.Reaches next :=
  h.located (.refl cursor) trivial

/-! ## Runs are evaluations -/

private def loopOutcome (allowZero : Bool) (start : Nat) :
    Outcome (List Value × Bool) → Outcome Yield
  | .ok ((values, bound), next) => finishLoop allowZero start values bound next
  | .error failure => .error failure

private theorem matchRepetition_eq (step : Object → Cursor → Outcome Yield × Object)
    (allowZero : Bool) (object : Object) (cursor : Cursor) :
    matchRepetition step allowZero object cursor =
      (loopOutcome allowZero cursor.offset
          (repeatStep step cursor.rest.length [] false object cursor).1,
        (repeatStep step cursor.rest.length [] false object cursor).2) := by
  rw [matchRepetition]
  rcases repeatStep step cursor.rest.length [] false object cursor with
    ⟨failure | ⟨⟨values, bound⟩, next⟩, after⟩
  · rfl
  · simp only [loopOutcome, finishLoop]
    split <;> rfl

private def allOutcome : Outcome (List Value) → Outcome Yield
  | .ok (values, next) => .ok (.value (.sequence values), next)
  | .error failure => .error failure

variable [Engine] [Targets] {m : Matcher} {depth : Nat}

/-- Every step passes a character, so the characters left bound the steps. -/
private theorem repeatStep_evaluates {part : Node} (allowZero : Bool) (start : Nat)
    (hpart : ∀ object cursor, Evaluates m depth (.node part) object cursor
      (part.run (m.enter depth) object cursor).1 (part.run (m.enter depth) object cursor).2)
    (fuel : Nat) (values : List Value) (bound : Bool) (object : Object) (cursor : Cursor)
    (hfuel : cursor.rest.length ≤ fuel) :
    Evaluates m depth (.loop part allowZero start values bound) object cursor
      (loopOutcome allowZero start
        (repeatStep (part.run (m.enter depth)) fuel values bound object cursor).1)
      (repeatStep (part.run (m.enter depth)) fuel values bound object cursor).2 := by
  induction fuel generalizing values bound object cursor with
  | zero =>
    apply Evaluates.loopEnd
    simpa [Cursor.isAtEnd] using hfuel
  | succ fuel ih =>
    have hstep := hpart object cursor
    rw [repeatStep]
    cases hend : cursor.isAtEnd with
    | true => exact .loopEnd hend
    | false =>
      rcases hrun : part.run (m.enter depth) object cursor with ⟨failure | ⟨yield, next⟩, between⟩
      · rw [hrun] at hstep
        cases hrecover : failure.isRecoverable with
        | true =>
          simp only [Bool.false_eq_true, ↓reduceIte, hrecover]
          exact .loopStop hend hstep hrecover
        | false =>
          simp only [Bool.false_eq_true, ↓reduceIte, hrecover]
          exact .loopFail hend hstep hrecover
      · rw [hrun] at hstep
        by_cases hoffset : next.offset = cursor.offset
        · simp only [Bool.false_eq_true, ↓reduceIte, hoffset]
          exact .loopStuck hend hstep hoffset
        · have hlt := hstep.reaches.length_lt hoffset
          have hrest := ih (values ++ yield.flatten) (bound || yield.isTarget) between next
            (by omega)
          simp only [Bool.false_eq_true, ↓reduceIte, hoffset]
          exact .loopStep hend hstep hoffset hrest

private def EntersAs (m : Matcher) (depth : Nat) : Prop :=
  ∀ reference object cursor, Evaluates m depth (.enter reference) object cursor
    (yieldObject (m.enter depth reference cursor)) object

mutual
private theorem run_evaluates (henter : EntersAs m depth) : (node : Node) →
    (object : Object) → (cursor : Cursor) →
    Evaluates m depth (.node node) object cursor
      (node.run (m.enter depth) object cursor).1 (node.run (m.enter depth) object cursor).2
  | .terminal pattern, object, cursor => by
    rw [Node.run]
    exact .terminal pattern
  | .nested type, object, cursor => by
    rw [Node.run]
    exact .nested (henter (.type type) object cursor)
  | .rule name, object, cursor => by
    rw [Node.run]
    exact .rule (henter (.rule name) object cursor)
  | .sequence parts, object, cursor => by
    have h := runAll_evaluates henter parts [] object cursor
    rw [Node.run]
    rcases hall : Node.runAll (m.enter depth) parts [] object cursor with
      ⟨failure | ⟨values, next⟩, after⟩ <;> rw [hall] at h
    · exact .sequenceFail h
    · exact .sequence h
  | .collect parts, object, cursor => by
    have h := runAll_evaluates henter parts [] object cursor
    rw [Node.run]
    rcases hall : Node.runAll (m.enter depth) parts [] object cursor with
      ⟨failure | ⟨values, next⟩, after⟩ <;> rw [hall] at h
    · exact .collect h
    · exact .collect h
  | .alternation parts, object, cursor => by
    have h := runFirst_evaluates henter parts parts object cursor
    rw [Node.run]
    rcases hfirst : Node.runFirst (m.enter depth) parts object cursor with
      ⟨_ | outcome, after⟩ <;> rw [hfirst] at h
    · exact .alternation h
    · exact .alternation h
  | .attribute name part, object, cursor => by
    have h := run_evaluates henter part object cursor
    rw [Node.run]
    rcases hpart : part.run (m.enter depth) object cursor with
      ⟨failure | ⟨yield, next⟩, after⟩ <;> rw [hpart] at h
    · exact .attributeFail h
    · dsimp only
      rcases hbind : bindYield name yield after with ⟨failure | _, bound⟩
      · exact .attributeRefused h hbind
      · exact .attributeBound h hbind
  | .ignore part, object, cursor => by
    have h := run_evaluates henter part object cursor
    rw [Node.run]
    rcases hpart : part.run (m.enter depth) object cursor with
      ⟨failure | ⟨yield, next⟩, after⟩ <;> rw [hpart] at h
    · exact .ignoreFail h
    · exact .ignore h
  | .optional part, object, cursor => by
    have h := run_evaluates henter part object cursor
    rw [Node.run]
    rcases hpart : part.run (m.enter depth) object cursor with
      ⟨failure | result, after⟩ <;> rw [hpart] at h
    · cases hrecover : failure.isRecoverable with
      | true =>
        simp only [↓reduceIte, hrecover]
        exact .optionalSkip h hrecover
      | false =>
        simp only [Bool.false_eq_true, ↓reduceIte, hrecover]
        exact .optionalFail h hrecover
    · exact .optional h
  | .repetition part allowZero, object, cursor => by
    rw [Node.run, matchRepetition_eq]
    exact .repetition (repeatStep_evaluates allowZero cursor.offset (run_evaluates henter part)
      _ _ _ _ _ (Nat.le_refl _))

private theorem runAll_evaluates (henter : EntersAs m depth) : (parts : List Node) →
    (values : List Value) → (object : Object) → (cursor : Cursor) →
    Evaluates m depth (.all values parts) object cursor
      (allOutcome (Node.runAll (m.enter depth) parts values object cursor).1)
      (Node.runAll (m.enter depth) parts values object cursor).2
  | [], values, object, cursor => by
    rw [Node.runAll]
    exact .allNil
  | part :: parts, values, object, cursor => by
    have h := run_evaluates henter part object cursor
    rw [Node.runAll]
    rcases hpart : part.run (m.enter depth) object cursor with
      ⟨failure | ⟨yield, next⟩, between⟩ <;> rw [hpart] at h
    · exact .allFail h
    · exact .allCons h (runAll_evaluates henter parts _ between next)

private theorem runFirst_evaluates (henter : EntersAs m depth) (parts : List Node) :
    (untried : List Node) → (object : Object) → (cursor : Cursor) →
    Evaluates m depth (.first parts untried) object cursor
      ((Node.runFirst (m.enter depth) untried object cursor).1.getD
        (.error (.noAlternative (parts.map Node.render) cursor.offset)))
      (Node.runFirst (m.enter depth) untried object cursor).2
  | [], object, cursor => by
    rw [Node.runFirst]
    exact .firstNil
  | part :: untried, object, cursor => by
    have h := run_evaluates henter part object cursor
    rw [Node.runFirst]
    rcases hpart : part.run (m.enter depth) object cursor with
      ⟨failure | result, between⟩ <;> rw [hpart] at h
    · cases hrecover : failure.isRecoverable with
      | true =>
        simp only [↓reduceIte, hrecover]
        exact .firstNext h hrecover (runFirst_evaluates henter parts untried between cursor)
      | false =>
        simp only [Bool.false_eq_true, ↓reduceIte, hrecover]
        exact .firstFail h hrecover
    · exact .firstOk h
end

theorem enter_evaluates (m : Matcher) (depth : Nat) (reference : Reference) (object : Object)
    (cursor : Cursor) :
    Evaluates m depth (.enter reference) object cursor
      (yieldObject (m.enter depth reference cursor)) object := by
  induction depth generalizing reference object cursor with
  | zero =>
    rw [Matcher.enter]
    cases hresolve : m.resolve reference with
    | error failure => exact .enterUnresolved hresolve
    | ok resolved => exact .enterTooDeep hresolve
  | succ depth ih =>
    rw [Matcher.enter]
    rcases hresolve : m.resolve reference with failure | ⟨grammar, fresh⟩
    · exact .enterUnresolved hresolve
    · have h := run_evaluates ih grammar fresh cursor
      dsimp only
      rcases hrun : grammar.run (m.enter depth) fresh cursor with
        ⟨failure | ⟨yield, next⟩, built⟩ <;> rw [hrun] at h
      · exact .enterFail hresolve h
      · exact .enter hresolve h

theorem evaluates_iff_run {m : Matcher} {depth : Nat} {node : Node} {object : Object}
    {cursor : Cursor} {outcome : Outcome Yield} {after : Object} :
    Evaluates m depth (.node node) object cursor outcome after ↔
      node.run (m.enter depth) object cursor = (outcome, after) := by
  have hrun := run_evaluates (enter_evaluates m depth) node object cursor
  constructor
  · intro h
    obtain ⟨houtcome, hafter⟩ := hrun.unique h
    exact Prod.ext houtcome hafter
  · intro h
    rwa [h] at hrun

theorem evaluates_matchNode (m : Matcher) (node : Node) (object : Object) (cursor : Cursor) :
    Evaluates m m.maxDepth (.node node) object cursor
      (m.matchNode node object cursor).1 (m.matchNode node object cursor).2 :=
  evaluates_iff_run.mpr rfl

end TextGrammar
