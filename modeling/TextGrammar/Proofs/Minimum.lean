import TextGrammar.Proofs.Iteration
import TextGrammar.Proofs.Shapes
/-!
# The minimum of a repetition

A repetition with a minimum takes it that a round has bound something if the round yields the
object being built. Parts that show their bindings in this way are told by their form, and for them
the minimum is missed exactly by rounds that contribute and bind nothing. Other parts bind without
yielding the object, or yield it without binding.
-/
namespace TextGrammar

/-! ## Bindings of a match -/

namespace NameMap

variable {α : Type}

theorem insert_ne_nil (map : NameMap α) (name : String) (value : α) :
    map.insert name value ≠ [] := by
  cases map with
  | nil => simp [insert]
  | cons entry map =>
    simp only [insert]
    split
    · simp
    · split <;> simp

theorem insertAll_ne_nil {map : NameMap α} (h : map ≠ []) (entries : List (String × α)) :
    map.insertAll entries ≠ [] := by
  induction entries generalizing map with
  | nil => exact h
  | cons entry entries ih => exact ih (insert_ne_nil map entry.1 entry.2)

theorem insertAll_nil_eq_nil_iff {entries : List (String × α)} :
    insertAll [] entries = [] ↔ entries = [] := by
  cases entries with
  | nil => simp [insertAll]
  | cons entry entries =>
    simp only [reduceCtorEq, iff_false]
    exact insertAll_ne_nil (insert_ne_nil [] entry.1 entry.2) entries

end NameMap

def Node.Binds [Engine] [Targets] (m : Matcher) (depth : Nat) (node : Node) (kind : String)
    (cursor : Cursor) : Prop :=
  ∃ outcome writes, Writes m depth kind (.node node) cursor outcome writes ∧ writes ≠ []

section Bindings

variable [Engine] [Targets]

variable {m : Matcher} {depth : Nat} {task : Task} {node : Node} {kind : String}
  {object after : Object} {cursor next : Cursor} {outcome : Outcome Yield} {yield : Yield}

theorem Node.binds_iff : node.Binds m depth kind cursor ↔
    (node.run (m.enter depth) (Object.record kind) cursor).2.attributes ≠ [] := by
  constructor
  · rintro ⟨outcome, writes, hwrites, hsome⟩
    rw [Object.record, evaluates_iff_run.mp (hwrites.evaluates [])]
    exact mt NameMap.insertAll_nil_eq_nil_iff.mp hsome
  · intro h
    rcases hrun : node.run (m.enter depth) (Object.record kind) cursor with ⟨outcome, after⟩
    obtain ⟨writes, hwrites, rfl⟩ := (evaluates_iff_run.mpr hrun).factors kind [] rfl
    refine ⟨outcome, writes, hwrites, ?_⟩
    rw [hrun] at h
    exact mt NameMap.insertAll_nil_eq_nil_iff.mpr h

theorem Evaluates.schema_eq_record (h : Evaluates m depth task object cursor outcome after)
    (hobject : object.schema = .record) : after.schema = .record := by
  obtain ⟨kind, schema, attributes⟩ := object
  cases hobject
  obtain ⟨writes, _, rfl⟩ := h.factors kind attributes rfl
  rfl

theorem Evaluates.attributes_ne_nil (h : Evaluates m depth task object cursor outcome after)
    (hobject : object.schema = .record) (hsome : object.attributes ≠ []) :
    after.attributes ≠ [] := by
  obtain ⟨kind, schema, attributes⟩ := object
  cases hobject
  obtain ⟨writes, _, rfl⟩ := h.factors kind attributes rfl
  exact NameMap.insertAll_ne_nil hsome writes

theorem Evaluates.after_eq_record
    (h : Evaluates m depth task (Object.record kind) cursor outcome after)
    (hnames : Node.allBoundNames task.nodes = []) : after = Object.record kind := by
  obtain ⟨writes, hwrites, rfl⟩ := h.factors kind [] rfl
  have hnone : writes = [] := by
    apply List.eq_nil_iff_forall_not_mem.mpr
    intro write hwrite
    have hname := hwrites.names write hwrite
    rw [hnames] at hname
    exact List.not_mem_nil hname
  rw [hnone]
  rfl

theorem Evaluates.eq_record_of_attributes
    (h : Evaluates m depth task (Object.record kind) cursor outcome after)
    (hnone : after.attributes = []) : after = Object.record kind := by
  obtain ⟨writes, _, rfl⟩ := h.factors kind [] rfl
  simp only [Object.record, Object.mk.injEq, true_and]
  exact hnone

end Bindings

/-! ## The form of a part -/

namespace Node

mutual
/-- The form of the node makes every match of it bind an attribute. -/
def alwaysBinds : Node → Bool
  | .terminal _ | .nested _ | .rule _ | .optional _ => false
  | .sequence parts | .collect parts => anyBinds parts
  | .alternation parts => allBind parts
  | .attribute _ _ => true
  | .ignore part => part.alwaysBinds
  | .repetition part allowZero => !allowZero && part.alwaysBinds

def anyBinds : List Node → Bool
  | [] => false
  | part :: parts => part.alwaysBinds || anyBinds parts

def allBind : List Node → Bool
  | [] => true
  | part :: parts => part.alwaysBinds && allBind parts
end

def yieldsTarget : Node → Bool
  | .sequence _ | .attribute _ _ => true
  | _ => false

/-- A failed match of the node leaves no bindings behind, because binding is the last that the node
does. -/
def bindsLast : Node → Bool
  | .attribute _ part => part.boundNames.isEmpty
  | node => node.boundNames.isEmpty

mutual
/-- The form of the node makes a match of it yield the object being built exactly if it has bound
something. What fails on the way has a say in this, because its bindings stay. -/
def showsBindings : Node → Bool
  | .terminal _ | .nested _ | .rule _ | .attribute _ _ => true
  | .sequence parts => anyBinds parts
  | .collect parts => (allBoundNames parts).isEmpty
  | .alternation parts => allShowBindings parts
  | .ignore part | .repetition part _ => part.boundNames.isEmpty
  | .optional part => part.showsBindings && part.bindsLast

def allShowBindings : List Node → Bool
  | [] => true
  | part :: parts =>
    part.showsBindings && allShowBindings parts && (part.bindsLast || parts.all yieldsTarget)
end

end Node

def Task.alwaysBinds : Task → Bool
  | .node grammar => grammar.alwaysBinds
  | .all _ parts => Node.anyBinds parts
  | .first _ untried => Node.allBind untried
  | .loop part allowZero _ values bound =>
    !allowZero && values.isEmpty && !bound && part.alwaysBinds
  | .enter _ => false

section Form

variable [Engine] [Targets]

variable {m : Matcher} {depth : Nat} {task : Task} {node : Node} {kind : String}
  {object after : Object} {cursor next : Cursor} {outcome : Outcome Yield} {yield : Yield}

theorem Evaluates.binds (h : Evaluates m depth task object cursor outcome after)
    (hobject : object.schema = .record) (htask : task.alwaysBinds = true)
    {result : Yield × Cursor} (hok : outcome = .ok result) : after.attributes ≠ [] := by
  induction h generalizing result with
  | terminal | nested | rule | optional | optionalSkip | optionalFail | allNil | enterUnresolved
  | enterTooDeep | enter | enterFail => cases htask
  | sequenceFail | attributeRefused | attributeFail | ignoreFail | allFail | firstNil | firstFail
  | loopStuck | loopFail => cases hok
  | sequence _ ih | ignore _ ih => exact ih hobject htask rfl
  | collect _ ih | alternation _ ih => exact ih hobject htask hok
  | @attributeBound _ _ _ _ _ _ _ after _ hpart hbind =>
    have hbetween := hpart.schema_eq_record hobject
    obtain ⟨kind, schema, attributes⟩ := after
    cases hbetween
    obtain ⟨value, _, rfl⟩ := bindYield_record_eq_ok hbind
    exact NameMap.insert_ne_nil _ _ _
  | repetition _ ih =>
    refine ih hobject ?_ hok
    simpa [Task.alwaysBinds, Node.alwaysBinds] using htask
  | allCons hpart hparts ih ih' =>
    simp only [Task.alwaysBinds, Node.anyBinds, Bool.or_eq_true] at htask
    have hbetween := hpart.schema_eq_record hobject
    rcases htask with hhere | hlater
    · exact hparts.attributes_ne_nil hbetween (ih hobject hhere rfl)
    · exact ih' hbetween hlater hok
  | firstOk _ ih =>
    simp only [Task.alwaysBinds, Node.allBind, Bool.and_eq_true] at htask
    exact ih hobject htask.1 hok
  | firstNext hpart _ _ _ ih' =>
    simp only [Task.alwaysBinds, Node.allBind, Bool.and_eq_true] at htask
    exact ih' (hpart.schema_eq_record hobject) htask.2 hok
  | loopEnd | loopStop =>
    -- Without a round the minimum is missed.
    simp only [Task.alwaysBinds, Bool.and_eq_true] at htask
    simp [finishLoop, htask] at hok
  | loopStep _ hround _ hrounds ih _ =>
    simp only [Task.alwaysBinds, Bool.and_eq_true] at htask
    exact hrounds.attributes_ne_nil (hround.schema_eq_record hobject) (ih hobject htask.2 rfl)

def Task.yieldsValue : Task → Bool
  | .node _ | .first .. => false
  | .all .. | .loop .. | .enter _ => true

theorem Evaluates.ne_target (h : Evaluates m depth task object cursor outcome after)
    (htask : task.yieldsValue = true) : outcome ≠ .ok (.target, next) := by
  intro htarget
  have hshape := h.yieldsIn
  rw [htarget] at hshape
  cases task with
  | node | first => cases htask
  | all | loop | enter => exact absurd (List.mem_singleton.mp hshape) nofun

theorem Evaluates.eq_target
    (h : Evaluates m depth (.node node) object cursor (.ok (yield, next)) after)
    (hnode : node.yieldsTarget = true) : yield = .target := by
  cases node with
  | sequence | «attribute» =>
    cases h
    rfl
  | _ => cases hnode

theorem Evaluates.first_eq_target {parts untried : List Node}
    (h : Evaluates m depth (.first parts untried) object cursor (.ok (yield, next)) after)
    (huntried : untried.all Node.yieldsTarget = true) : yield = .target := by
  induction untried generalizing object with
  | nil => cases h
  | cons part untried ih =>
    simp only [List.all_cons, Bool.and_eq_true] at huntried
    cases h with
    | firstOk hpart => exact hpart.eq_target huntried.1
    | firstNext _ _ hrest => exact ih hrest huntried.2

theorem Evaluates.after_eq_of_bindsLast {failure : Failure}
    (h : Evaluates m depth (.node node) (Object.record kind) cursor (.error failure) after)
    (hlast : node.bindsLast = true) : after = Object.record kind := by
  cases node with
  | «attribute» name part =>
    have hnames : Node.allBoundNames (Task.node part).nodes = [] := by
      rw [Task.nodes, Node.allBoundNames_singleton]
      exact List.isEmpty_iff.mp hlast
    cases h with
    | attributeRefused hpart hbind =>
      rw [hpart.after_eq_record hnames] at hbind
      exact (bindYield_record_eq_error hbind).2.2
    | attributeFail hpart => exact hpart.after_eq_record hnames
  | _ =>
    apply h.after_eq_record
    rw [Task.nodes, Node.allBoundNames_singleton]
    exact List.isEmpty_iff.mp hlast

def Task.ShowsBindings : Task → Prop
  | .node grammar => grammar.showsBindings = true
  | .first _ untried => Node.allShowBindings untried = true
  | .all .. | .loop .. | .enter _ => False

private theorem Evaluates.of_silent (h : Evaluates m depth task object cursor outcome after)
    (hobject : object = Object.record kind) (hok : outcome = .ok (yield, next))
    (hnames : Node.allBoundNames task.nodes = []) (hvalue : outcome ≠ .ok (.target, next)) :
    yield = .target ↔ after.attributes ≠ [] := by
  subst hobject hok
  have hyield : yield ≠ .target := by
    rintro rfl
    exact hvalue rfl
  simp [h.after_eq_record hnames, Object.record, hyield]

omit [Targets] in
private theorem matchTerminal_ne_target (pattern : String) (cursor next : Cursor) :
    matchTerminal pattern cursor ≠ .ok (.target, next) := by
  intro htarget
  have hshape := matchTerminal_yieldsIn pattern cursor
  rw [htarget] at hshape
  exact absurd (List.mem_singleton.mp hshape) nofun

theorem Evaluates.target_iff_bound (h : Evaluates m depth task object cursor outcome after)
    (hobject : object = Object.record kind) (htask : task.ShowsBindings)
    (hok : outcome = .ok (yield, next)) : yield = .target ↔ after.attributes ≠ [] := by
  induction h with
  | sequenceFail | attributeRefused | attributeFail | ignoreFail | optionalFail | firstNil
  | firstFail => cases hok
  | @terminal depth object cursor pattern =>
    have h : Evaluates m depth (.node (.terminal pattern)) object cursor _ object :=
      .terminal pattern
    exact h.of_silent hobject hok rfl (matchTerminal_ne_target pattern cursor next)
  | nested h _ | rule h _ => exact h.of_silent hobject hok rfl (h.ne_target rfl)
  | collect h _ => exact h.of_silent hobject hok (List.isEmpty_iff.mp htask) (h.ne_target rfl)
  | repetition h _ =>
    have hnames := (Node.allBoundNames_singleton _).trans (List.isEmpty_iff.mp htask)
    exact h.of_silent hobject hok hnames (h.ne_target rfl)
  | ignore h _ =>
    have hnames := (Node.allBoundNames_singleton _).trans (List.isEmpty_iff.mp htask)
    exact (Evaluates.ignore h).of_silent hobject hok hnames nofun
  | sequence h _ =>
    cases hok
    simpa using h.binds (congrArg Object.schema hobject) htask rfl
  | attributeBound h hbind _ =>
    cases hok
    simpa using (Evaluates.attributeBound h hbind).binds (congrArg Object.schema hobject) rfl rfl
  | alternation _ ih => exact ih hobject htask hok
  | optional _ ih =>
    simp only [Task.ShowsBindings, Node.showsBindings, Bool.and_eq_true] at htask
    exact ih hobject htask.1 hok
  | optionalSkip h _ _ =>
    simp only [Task.ShowsBindings, Node.showsBindings, Bool.and_eq_true] at htask
    cases hok
    subst hobject
    simp [h.after_eq_of_bindsLast htask.2, Object.record]
  | firstOk _ ih =>
    simp only [Task.ShowsBindings, Node.allShowBindings, Bool.and_eq_true] at htask
    exact ih hobject htask.1.1 hok
  | @firstNext _ _ _ _ _ _ _ between _ _ h _ hrest _ ih' =>
    simp only [Task.ShowsBindings, Node.allShowBindings, Bool.and_eq_true, Bool.or_eq_true] at htask
    subst hobject hok
    by_cases hnone : between.attributes = []
    · exact ih' (h.eq_record_of_attributes hnone) htask.1.2 rfl
    · -- The bindings of the alternative that failed stay, so a later one has to yield the object.
      have hlater : yield = .target := by
        rcases htask.2 with hlast | htargets
        · simp [h.after_eq_of_bindsLast hlast, Object.record] at hnone
        · exact hrest.first_eq_target htargets
      simpa [hlater] using hrest.attributes_ne_nil (h.schema_eq_record rfl) hnone
  | _ => cases htask

end Form

/-! ## Missing the minimum -/

namespace Node

section Missing

variable [Engine] [Targets]

variable {m : Matcher} {depth : Nat} {part : Node} {kind : String} {attributes : NameMap Value}
  {object after : Object} {cursor last : Cursor} {rounds : List Round}

/-- The rounds on a record come to an end, and none of them contributes a value or binds. -/
def ContributesNothing (m : Matcher) (depth : Nat) (part : Node) (kind : String)
    (attributes : NameMap Value) (cursor : Cursor) : Prop :=
  ∃ rounds last after,
    part.iterate m depth ⟨kind, .record, attributes⟩ cursor = (.ok (rounds, last), after) ∧
      ∀ round ∈ rounds, round.yield.flatten = [] ∧ ¬ part.Binds m depth kind round.start

omit [Engine] [Targets] in
private theorem missesMinimum_iff {rounds : List Round} :
    ((contributed rounds).isEmpty && !(rounds.any fun round => round.yield.isTarget)) = true ↔
      ∀ round ∈ rounds, round.yield.flatten = [] ∧ round.yield ≠ .target := by
  have htarget (yield : Yield) : yield.isTarget = false ↔ yield ≠ .target := by
    cases yield <;> simp [Yield.isTarget]
  simp [contributed_eq_nil_iff, htarget, forall_and]

theorem run_repetition_eq_tooFew_iff {position : Nat} :
    ((Node.repetition part false).run (m.enter depth) object cursor).1 =
        .error (.tooFew position) ↔
      position = cursor.offset ∧ ∃ rounds last after,
        part.iterate m depth object cursor = (.ok (rounds, last), after) ∧
          ∀ round ∈ rounds, round.yield.flatten = [] ∧ round.yield ≠ .target := by
  rw [run_repetition]
  rcases hrounds : part.iterate m depth object cursor with ⟨failure | ⟨rounds, last⟩, after⟩
  · have hfatal := iterate_error_isFatal hrounds
    constructor
    · intro h
      cases h
      cases hfatal
    · rintro ⟨_, _, _, _, h, _⟩
      cases h
  · simp only [Bool.not_false, Bool.and_true]
    constructor
    · intro h
      split at h
      · next hmissed =>
        cases h
        exact ⟨rfl, rounds, last, after, rfl, missesMinimum_iff.mp hmissed⟩
      · cases h
    · rintro ⟨rfl, _, _, _, h, hmissed⟩
      cases h
      rw [if_pos (missesMinimum_iff.mpr hmissed)]

theorem iterate_target_iff_binds (hpart : part.showsBindings = true)
    (h : part.iterate m depth ⟨kind, .record, attributes⟩ cursor = (.ok (rounds, last), after)) :
    ∀ round ∈ rounds, round.yield = .target ↔ part.Binds m depth kind round.start := by
  induction rounds generalizing attributes cursor with
  | nil => nofun
  | cons round rounds ih =>
    obtain ⟨next, between, hrun, hstart, _, hrest⟩ := iterate_eq_cons h
    -- The round ends in the same way on a record that holds nothing.
    obtain ⟨writes, hwrites, rfl⟩ := (evaluates_iff_run.mpr hrun).factors kind attributes rfl
    have hfresh := hwrites.evaluates []
    rw [List.forall_mem_cons]
    refine ⟨?_, ih hrest⟩
    rw [hstart, binds_iff, Object.record, evaluates_iff_run.mp hfresh]
    exact hfresh.target_iff_bound rfl hpart rfl

/-- A repetition with a minimum misses it exactly if its rounds come to an end and none of them
contributes a value or yields the object being built. For a part whose form shows its bindings that
is to say that none of them contributes a value or binds an attribute. -/
theorem repetition_misses_minimum_iff (m : Matcher) (depth : Nat) (part : Node) (kind : String)
    (attributes : NameMap Value) (cursor : Cursor) (position : Nat) :
    (((Node.repetition part false).run (m.enter depth) ⟨kind, .record, attributes⟩ cursor).1 =
        .error (.tooFew position) ↔
      position = cursor.offset ∧ ∃ rounds last after,
        part.iterate m depth ⟨kind, .record, attributes⟩ cursor = (.ok (rounds, last), after) ∧
          ∀ round ∈ rounds, round.yield.flatten = [] ∧ round.yield ≠ .target) ∧
    (part.showsBindings = true →
      (((Node.repetition part false).run (m.enter depth) ⟨kind, .record, attributes⟩ cursor).1 =
          .error (.tooFew position) ↔
        position = cursor.offset ∧ part.ContributesNothing m depth kind attributes cursor)) := by
  refine ⟨run_repetition_eq_tooFew_iff, ?_⟩
  intro hpart
  rw [run_repetition_eq_tooFew_iff, ContributesNothing]
  refine and_congr_right fun _ => exists_congr fun rounds => exists_congr fun last =>
    exists_congr fun after => and_congr_right fun hrounds => forall₂_congr fun round hround => ?_
  rw [Ne, iterate_target_iff_binds hpart hrounds round hround]

end Missing

/-- Spaces are ignored and letters are bound: two spaces miss the minimum, a letter after a space
does not. -/
theorem repetition_misses_minimum_iff_letter :
    let m : Matcher := { }
    let part : Node := .alternation [.ignore (.terminal " "), .attribute "last" (.terminal "\\w")]
    part.showsBindings = true ∧
      part.ContributesNothing m 0 "test" [] (Cursor.start [' ', ' ']) ∧
      ¬ part.ContributesNothing m 0 "test" [] (Cursor.start [' ', 'a']) := by
  intro m part
  have hshows : part.showsBindings = true := by rfl
  refine ⟨hshows, ?_, ?_⟩
  · obtain ⟨_, hiff⟩ := repetition_misses_minimum_iff m 0 part "test" [] (Cursor.start [' ', ' ']) 0
    exact ((hiff hshows).mp (by rfl)).2
  · intro hnothing
    obtain ⟨_, hiff⟩ := repetition_misses_minimum_iff m 0 part "test" [] (Cursor.start [' ', 'a']) 0
    have hmissed := (hiff hshows).mpr ⟨rfl, hnothing⟩
    have hmatch : ((Node.repetition part false).run (m.enter 0) ⟨"test", .record, []⟩
        (Cursor.start [' ', 'a'])).1 = .ok (.value (.sequence []), ⟨2, []⟩) := by rfl
    rw [hmatch] at hmissed
    cases hmissed

/-- Other parts mislead the minimum. A binding inside of a collection does not count for it, and an
ignored text inside of a sequence does. -/
theorem repetition_mistakes_bindings :
    let m : Matcher := { }
    let hidden : Node := .collect [.attribute "last" (.terminal "\\w")]
    let idle : Node := .sequence [.ignore (.terminal " +")]
    (m.matchNode (.repetition hidden false) (Object.record "test") (Cursor.start ['a', 'b']) =
        (.error (.tooFew 0), ⟨"test", .record, [("last", .text "b")]⟩) ∧
      ¬ hidden.ContributesNothing m m.maxDepth "test" [] (Cursor.start ['a', 'b'])) ∧
    (m.matchNode (.repetition idle false) (Object.record "test") (Cursor.start [' ', ' ', ' ']) =
        (.ok (.value (.sequence []), ⟨3, []⟩), Object.record "test") ∧
      idle.ContributesNothing m m.maxDepth "test" [] (Cursor.start [' ', ' ', ' '])) := by
  intro m hidden idle
  refine ⟨⟨by rfl, ?_⟩, ⟨by rfl, ?_⟩⟩
  · rintro ⟨rounds, last, after, hrounds, hnothing⟩
    have hround : hidden.run (m.enter m.maxDepth) ⟨"test", .record, []⟩ (Cursor.start ['a', 'b']) =
        (.ok (.value (.sequence []), ⟨1, ['b']⟩), ⟨"test", .record, [("last", .text "a")]⟩) := by
      rfl
    rw [iterate_of_round rfl hround (by decide)] at hrounds
    split at hrounds
    · cases hrounds
      have hidle := (hnothing _ List.mem_cons_self).2
      rw [binds_iff, Object.record, hround] at hidle
      exact hidle (by simp)
    · cases hrounds
  · have hround : idle.run (m.enter m.maxDepth) (Object.record "test")
        (Cursor.start [' ', ' ', ' ']) = (.ok (.target, ⟨3, []⟩), Object.record "test") := by rfl
    refine ⟨[⟨Cursor.start [' ', ' ', ' '], .target⟩], ⟨3, []⟩, Object.record "test", ?_, ?_⟩
    · rw [← Object.record, iterate_of_round rfl hround (by decide), iterate_of_isAtEnd rfl]
    · rw [List.forall_mem_singleton, binds_iff, hround]
      exact ⟨rfl, fun hbound => hbound rfl⟩

end Node

end TextGrammar
