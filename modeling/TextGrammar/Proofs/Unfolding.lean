import TextGrammar.Proofs.Evaluation
/-!
# Matching unfolded

The equations of a match without the bounds that make it total: loops go on until they end by
themselves, and only the number of references entered is counted. A cursor is the whole text with
a byte offset, and every slice of the text is checked. Each call takes one unit of fuel.

With enough fuel the equations come to the outcome of the match, and on the way to it no slice
splits a character or leaves the text.
-/
namespace TextGrammar

inductive Halt where
  | outOfFuel
  /-- A slice or a cursor that does not end at a character boundary of the text. -/
  | offBoundary
deriving DecidableEq, Repr

structure TextCursor where
  text : List Char
  offset : Nat

namespace TextCursor

def isAtEnd (cursor : TextCursor) : Bool := byteLength cursor.text ≤ cursor.offset

def remaining (cursor : TextCursor) : Except Halt (List Char) :=
  match dropBytes? cursor.offset cursor.text with
  | some rest => .ok rest
  | none => .error .offBoundary

def advance (cursor : TextCursor) (bytes : Nat) : Except Halt TextCursor :=
  match dropBytes? (cursor.offset + bytes) cursor.text with
  | some _ => .ok ⟨cursor.text, cursor.offset + bytes⟩
  | none => .error .offBoundary

end TextCursor

def sliceTo (count : Nat) (text : List Char) : Except Halt (List Char) :=
  if count ≤ text.length then .ok (text.take count) else .error .offBoundary

abbrev TextOutcome := Except Failure (Yield × TextCursor)

section Equations

variable [Engine] [Targets]

def checkedTerminal (pattern : String) (cursor : TextCursor) : Except Halt TextOutcome := do
  let input ← cursor.remaining
  match Engine.compile pattern with
  | none => return .error (.invalidPattern pattern)
  | some program =>
    match Engine.matchLength? program input with
    | none => return .error (.mismatch pattern cursor.offset)
    | some length =>
      let text ← sliceTo length input
      let next ← cursor.advance (byteLength text)
      return .ok (.value (.text (String.ofList text)), next)

namespace Matcher

mutual
/-- Matches a node after `depth` references have been entered. -/
def descend (m : Matcher) : (fuel : Nat) → Node → Object → TextCursor → (depth : Nat) →
    Except Halt (TextOutcome × Object)
  | 0, _, _, _, _ => .error .outOfFuel
  | _ + 1, .terminal pattern, object, cursor, _ => do
    return (← checkedTerminal pattern cursor, object)
  | fuel + 1, .nested type, object, cursor, depth => do
    return (← m.activate fuel (.type type) cursor depth, object)
  | fuel + 1, .rule name, object, cursor, depth => do
    return (← m.activate fuel (.rule name) cursor depth, object)
  | fuel + 1, .sequence parts, object, cursor, depth => do
    match ← m.descendAll fuel parts [] object cursor depth with
    | (.ok (_, next), object) => return (.ok (.target, next), object)
    | (.error failure, object) => return (.error failure, object)
  | fuel + 1, .collect parts, object, cursor, depth =>
    m.descendAll fuel parts [] object cursor depth
  | fuel + 1, .alternation parts, object, cursor, depth =>
    m.descendFirst fuel parts parts object cursor depth
  | fuel + 1, .attribute name part, object, cursor, depth => do
    match ← m.descend fuel part object cursor depth with
    | (.ok (yield, next), object) =>
      match bindYield name yield object with
      | (.ok (), object) => return (.ok (.target, next), object)
      | (.error failure, object) => return (.error failure, object)
    | (.error failure, object) => return (.error failure, object)
  | fuel + 1, .ignore part, object, cursor, depth => do
    match ← m.descend fuel part object cursor depth with
    | (.ok (_, next), object) => return (.ok (.value .empty, next), object)
    | (.error failure, object) => return (.error failure, object)
  | fuel + 1, .optional part, object, cursor, depth => do
    match ← m.descend fuel part object cursor depth with
    | (.ok result, object) => return (.ok result, object)
    | (.error failure, object) =>
      if failure.isRecoverable then return (.ok (.value .empty, cursor), object)
      else return (.error failure, object)
  | fuel + 1, .repetition part allowZero, object, cursor, depth =>
    m.descendLoop fuel part allowZero cursor.offset [] false object cursor depth
termination_by structural fuel => fuel

def descendAll (m : Matcher) : (fuel : Nat) → List Node → List Value → Object → TextCursor →
    (depth : Nat) → Except Halt (TextOutcome × Object)
  | 0, _, _, _, _, _ => .error .outOfFuel
  | _ + 1, [], values, object, cursor, _ => return (.ok (.value (.sequence values), cursor), object)
  | fuel + 1, part :: parts, values, object, cursor, depth => do
    match ← m.descend fuel part object cursor depth with
    | (.ok (yield, next), object) =>
      m.descendAll fuel parts (values ++ yield.flatten) object next depth
    | (.error failure, object) => return (.error failure, object)
termination_by structural fuel => fuel

def descendFirst (m : Matcher) : (fuel : Nat) → List Node → (untried : List Node) → Object →
    TextCursor → (depth : Nat) → Except Halt (TextOutcome × Object)
  | 0, _, _, _, _, _ => .error .outOfFuel
  | _ + 1, parts, [], object, cursor, _ =>
    return (.error (.noAlternative (parts.map Node.render) cursor.offset), object)
  | fuel + 1, parts, part :: untried, object, cursor, depth => do
    match ← m.descend fuel part object cursor depth with
    | (.ok result, object) => return (.ok result, object)
    | (.error failure, object) =>
      if failure.isRecoverable then m.descendFirst fuel parts untried object cursor depth
      else return (.error failure, object)
termination_by structural fuel => fuel

def descendLoop (m : Matcher) : (fuel : Nat) → Node → (allowZero : Bool) → (start : Nat) →
    List Value → (bound : Bool) → Object → TextCursor → (depth : Nat) →
    Except Halt (TextOutcome × Object)
  | 0, _, _, _, _, _, _, _, _ => .error .outOfFuel
  | fuel + 1, part, allowZero, start, values, bound, object, cursor, depth =>
    if cursor.isAtEnd then return (finishLoop allowZero start values bound cursor, object)
    else do
      match ← m.descend fuel part object cursor depth with
      | (.ok (yield, next), object) =>
        if next.offset = cursor.offset then return (.error (.noProgress cursor.offset), object)
        else
          m.descendLoop fuel part allowZero start (values ++ yield.flatten)
            (bound || yield.isTarget) object next depth
      | (.error failure, object) =>
        if failure.isRecoverable then
          return (finishLoop allowZero start values bound cursor, object)
        else return (.error failure, object)
termination_by structural fuel => fuel

/-- Follows a reference to a grammar that is matched into a fresh object. -/
def activate (m : Matcher) : (fuel : Nat) → Reference → TextCursor → (depth : Nat) →
    Except Halt TextOutcome
  | 0, _, _, _ => .error .outOfFuel
  | fuel + 1, reference, cursor, depth =>
    match m.resolve reference with
    | .error failure => return .error failure
    | .ok (grammar, fresh) =>
      if depth + 1 > m.maxDepth then return .error (.tooDeep m.maxDepth cursor.offset)
      else do
        match ← m.descend fuel grammar fresh cursor (depth + 1) with
        | (.ok (_, next), object) => return .ok (.value object.toValue, next)
        | (.error failure, _) => return .error failure
termination_by structural fuel => fuel
end

end Matcher

end Equations

/-! ## Enough fuel -/

/-- Enough fuel gives the result, and less of it gives no other one. -/
structure Settles {α : Type} (run : Nat → Except Halt α) (result : α) : Prop where
  outOfFuel_or : ∀ fuel, run fuel = .error .outOfFuel ∨ run fuel = .ok result
  enough : ∃ enough, ∀ fuel, enough ≤ fuel → run fuel = .ok result

namespace Settles

variable {α β : Type}

theorem of_ok {run : Nat → Except Halt α} {result : α} (h : ∀ fuel, run fuel = .ok result) :
    Settles run result :=
  ⟨fun fuel => .inr (h fuel), 0, fun fuel _ => h fuel⟩

theorem of_succ {run : Nat → Except Halt α} {result : α} (hzero : run 0 = .error .outOfFuel)
    (h : Settles (fun fuel => run (fuel + 1)) result) : Settles run result := by
  refine ⟨?_, ?_⟩
  · intro fuel
    cases fuel with
    | zero => exact .inl hzero
    | succ fuel => exact h.outOfFuel_or fuel
  · obtain ⟨enough, henough⟩ := h.enough
    refine ⟨enough + 1, ?_⟩
    intro fuel hfuel
    cases fuel with
    | zero => omega
    | succ fuel => exact henough fuel (by omega)

theorem bind {run : Nat → Except Halt α} {next : Nat → α → Except Halt β} {middle : α} {result : β}
    (h : Settles run middle) (h' : Settles (fun fuel => next fuel middle) result) :
    Settles (fun fuel => run fuel >>= next fuel) result := by
  refine ⟨?_, ?_⟩
  · intro fuel
    rcases h.outOfFuel_or fuel with hrun | hrun
    · exact .inl (by rw [hrun]; rfl)
    · rw [hrun]
      exact h'.outOfFuel_or fuel
  · obtain ⟨enough, henough⟩ := h.enough
    obtain ⟨enough', henough'⟩ := h'.enough
    refine ⟨max enough enough', ?_⟩
    intro fuel hfuel
    rw [henough fuel (by omega)]
    exact henough' fuel (by omega)

end Settles

def inText (text : List Char) : Outcome Yield → TextOutcome
  | .ok (yield, next) => .ok (yield, ⟨text, next.offset⟩)
  | .error failure => .error failure

def Task.unfold [Engine] [Targets] (m : Matcher) (task : Task) (object : Object)
    (cursor : TextCursor) (depth : Nat) (fuel : Nat) : Except Halt (TextOutcome × Object) :=
  match task with
  | .node grammar => m.descend fuel grammar object cursor depth
  | .all values parts => m.descendAll fuel parts values object cursor depth
  | .first parts untried => m.descendFirst fuel parts untried object cursor depth
  | .loop part allowZero start values bound =>
    m.descendLoop fuel part allowZero start values bound object cursor depth
  | .enter reference => do return (← m.activate fuel reference cursor depth, object)

theorem textCursor_isAtEnd {cursor : Cursor} {text : List Char} (hin : cursor.IsIn text) :
    TextCursor.isAtEnd ⟨text, cursor.offset⟩ = cursor.isAtEnd := by
  rw [Bool.eq_iff_iff, hin.isAtEnd_iff, TextCursor.isAtEnd, decide_eq_true_iff]

theorem inText_finishLoop (text : List Char) (allowZero : Bool) (start : Nat)
    (values : List Value) (bound : Bool) (cursor : Cursor) :
    inText text (finishLoop allowZero start values bound cursor) =
      finishLoop allowZero start values bound ⟨text, cursor.offset⟩ := by
  unfold finishLoop
  split <;> rfl

theorem checkedTerminal_eq [Engine] (pattern : String) {cursor : Cursor} {text : List Char}
    (hin : cursor.IsIn text) :
    checkedTerminal pattern ⟨text, cursor.offset⟩ =
      .ok (inText text (matchTerminal pattern cursor)) := by
  have hremaining : TextCursor.remaining ⟨text, cursor.offset⟩ = .ok cursor.rest := by
    simp only [TextCursor.remaining, hin.dropBytes?]
  rw [checkedTerminal, hremaining]
  obtain ⟨hcompile, hmatch⟩ | ⟨program, hcompile, ⟨hlength, hmatch⟩ | ⟨length, hlength, hmatch⟩⟩ :=
    matchTerminal_cases pattern cursor
  · simp only [hcompile, hmatch]
    rfl
  · simp only [hcompile, hlength, hmatch, bind, Except.bind]
    rfl
  · have hslice : sliceTo length cursor.rest = .ok (cursor.rest.take length) :=
      if_pos (Engine.matchLength?_le hlength)
    have hnext : dropBytes? (cursor.offset + byteLength (cursor.rest.take length)) text =
        some (cursor.advance length).rest :=
      (hin.of_reaches (cursor.reaches_advance length)).dropBytes?
    simp only [hcompile, hlength, hmatch, hslice, TextCursor.advance, bind, Except.bind, hnext]
    rfl

variable [Engine] [Targets]

theorem Evaluates.settles {m : Matcher} {spare : Nat} {task : Task} {object : Object}
    {cursor : Cursor} {outcome : Outcome Yield} {after : Object}
    (h : Evaluates m spare task object cursor outcome after) :
    ∀ {depth : Nat} {text : List Char}, depth + spare = m.maxDepth → cursor.IsIn text →
      Settles (task.unfold m object ⟨text, cursor.offset⟩ depth) (inText text outcome, after) := by
  induction h with
  | terminal pattern =>
    intro depth text hdepth hin
    apply Settles.of_succ rfl
    apply Settles.of_ok
    intro fuel
    simp only [Task.unfold, Matcher.descend, checkedTerminal_eq pattern hin]
    rfl
  | nested _ ih | rule _ ih | collect _ ih | alternation _ ih | repetition _ ih =>
    intro depth text hdepth hin
    apply Settles.of_succ rfl
    exact ih hdepth hin
  | sequence _ ih | sequenceFail _ ih | attributeFail _ ih | ignore _ ih | ignoreFail _ ih
  | optional _ ih | allFail _ ih | firstOk _ ih =>
    intro depth text hdepth hin
    apply Settles.of_succ rfl
    exact (ih hdepth hin).bind (.of_ok fun _ => rfl)
  | attributeBound _ hbind ih | attributeRefused _ hbind ih =>
    intro depth text hdepth hin
    apply Settles.of_succ rfl
    refine (ih hdepth hin).bind (.of_ok fun _ => ?_)
    simp only [inText, hbind]
    rfl
  | optionalSkip _ hrecover ih | optionalFail _ hrecover ih | firstFail _ hrecover ih =>
    intro depth text hdepth hin
    apply Settles.of_succ rfl
    refine (ih hdepth hin).bind (.of_ok fun _ => ?_)
    simp only [inText, hrecover]
    rfl
  | allNil | firstNil =>
    intro depth text hdepth hin
    exact .of_succ rfl (.of_ok fun _ => rfl)
  | allCons h _ ih ih' =>
    intro depth text hdepth hin
    apply Settles.of_succ rfl
    exact (ih hdepth hin).bind (ih' hdepth (hin.of_reaches h.reaches))
  | firstNext _ hrecover _ ih ih' =>
    intro depth text hdepth hin
    apply Settles.of_succ rfl
    refine (ih hdepth hin).bind ?_
    simp only [inText, hrecover, ↓reduceIte]
    exact ih' hdepth hin
  | loopEnd hend =>
    intro depth text hdepth hin
    apply Settles.of_succ rfl
    apply Settles.of_ok
    intro fuel
    simp only [Task.unfold, Matcher.descendLoop, textCursor_isAtEnd hin, hend, inText_finishLoop]
    rfl
  | loopStop hend _ hrecover ih =>
    intro depth text hdepth hin
    apply Settles.of_succ rfl
    simp only [Task.unfold, Matcher.descendLoop, textCursor_isAtEnd hin, hend, inText_finishLoop]
    refine (ih hdepth hin).bind (.of_ok fun _ => ?_)
    simp only [inText, hrecover]
    rfl
  | loopStep hend h hmoved _ ih ih' =>
    intro depth text hdepth hin
    apply Settles.of_succ rfl
    simp only [Task.unfold, Matcher.descendLoop, textCursor_isAtEnd hin, hend]
    refine (ih hdepth hin).bind ?_
    simp only [inText, hmoved]
    exact ih' hdepth (hin.of_reaches h.reaches)
  | loopStuck hend _ hmoved ih =>
    intro depth text hdepth hin
    apply Settles.of_succ rfl
    simp only [Task.unfold, Matcher.descendLoop, textCursor_isAtEnd hin, hend]
    refine (ih hdepth hin).bind (.of_ok fun _ => ?_)
    simp only [inText, hmoved]
    rfl
  | loopFail hend _ hrecover ih =>
    intro depth text hdepth hin
    apply Settles.of_succ rfl
    simp only [Task.unfold, Matcher.descendLoop, textCursor_isAtEnd hin, hend]
    refine (ih hdepth hin).bind (.of_ok fun _ => ?_)
    simp only [inText, hrecover]
    rfl
  | enterUnresolved hresolve =>
    intro depth text hdepth hin
    apply Settles.of_succ rfl
    apply Settles.of_ok
    intro fuel
    simp only [Task.unfold, Matcher.activate, hresolve]
    rfl
  | enterTooDeep hresolve =>
    intro depth text hdepth hin
    apply Settles.of_succ rfl
    apply Settles.of_ok
    intro fuel
    have hdeep : depth + 1 > m.maxDepth := by omega
    simp only [Task.unfold, Matcher.activate, hresolve, hdeep]
    rfl
  | enter hresolve _ ih | enterFail hresolve _ ih =>
    intro depth text hdepth hin
    apply Settles.of_succ rfl
    have hdeep : ¬ depth + 1 > m.maxDepth := by omega
    simp only [Task.unfold, Matcher.activate, hresolve, hdeep, ↓reduceIte]
    have hspare : depth + 1 + _ = m.maxDepth := (Nat.succ_add_eq_add_succ ..).trans hdepth
    exact Settles.bind (Settles.bind (ih hspare hin) (.of_ok fun _ => rfl)) (.of_ok fun _ => rfl)

theorem Matcher.descend_settles (m : Matcher) (node : Node) (object : Object)
    (before rest : List Char) :
    Settles (fun fuel => m.descend fuel node object ⟨before ++ rest, byteLength before⟩ 0)
      (inText (before ++ rest) (m.matchNode node object ⟨byteLength before, rest⟩).1,
        (m.matchNode node object ⟨byteLength before, rest⟩).2) :=
  (evaluates_matchNode m node object ⟨byteLength before, rest⟩).settles (Nat.zero_add _)
    (Cursor.isIn_append before rest)

/-- Matching terminates on every grammar: with enough fuel the equations come to one outcome, and
it is the outcome of the match. -/
theorem Matcher.descend_eq_matchNode (m : Matcher) (node : Node) (object : Object)
    (before rest : List Char) :
    ∃ enough, ∀ fuel, enough ≤ fuel →
      m.descend fuel node object ⟨before ++ rest, byteLength before⟩ 0 =
        .ok (inText (before ++ rest) (m.matchNode node object ⟨byteLength before, rest⟩).1,
          (m.matchNode node object ⟨byteLength before, rest⟩).2) :=
  (m.descend_settles node object before rest).enough

/-- A match stays in its text. It ends at a cursor of the text, and a failure is about a position
in it, at a character boundary that is not before the start of the match. No slice that the match
takes on its way splits a character or leaves the text. -/
theorem Matcher.matchNode_stays_in_text (m : Matcher) (node : Node) (object : Object)
    (before rest : List Char) :
    (match (m.matchNode node object ⟨byteLength before, rest⟩).1 with
      | .ok (_, next) =>
        next.IsIn (before ++ rest) ∧ IsBoundary (before ++ rest) next.offset ∧
          byteLength before ≤ next.offset ∧ next.offset ≤ byteLength (before ++ rest)
      | .error failure =>
        ∀ position, failure.position? = some position →
          IsBoundary (before ++ rest) position ∧
            byteLength before ≤ position ∧ position ≤ byteLength (before ++ rest)) ∧
      ∀ fuel, m.descend fuel node object ⟨before ++ rest, byteLength before⟩ 0 ≠
        .error .offBoundary := by
  have hin := Cursor.isIn_append before rest
  have hlocated := (evaluates_matchNode m node object ⟨byteLength before, rest⟩).located
    (.refl _) trivial
  refine ⟨?_, ?_⟩
  · generalize (m.matchNode node object ⟨byteLength before, rest⟩).1 = outcome at hlocated
    rcases outcome with failure | ⟨yield, next⟩
    · intro position hposition
      obtain ⟨place, hplace, rfl⟩ := hlocated position hposition
      have hboundary := (hin.of_reaches hplace).isBoundary
      exact ⟨hboundary, hplace.offset_le, hboundary.le_byteLength⟩
    · have hnext := hin.of_reaches hlocated
      exact ⟨hnext, hnext.isBoundary, Cursor.Reaches.offset_le hlocated,
        hnext.isBoundary.le_byteLength⟩
  · intro fuel hoff
    rcases (m.descend_settles node object before rest).outOfFuel_or fuel with h | h
    · cases hoff.symm.trans h
    · cases hoff.symm.trans h

end TextGrammar
