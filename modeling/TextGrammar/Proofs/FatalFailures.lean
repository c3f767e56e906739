import TextGrammar.Proofs.Reachability
import TextGrammar.Terminal
/-!
# Fatal failures

A match as the steps that it takes, in their order: nodes that are tried, bindings, and nodes that
end. The object that a match leaves behind is the one that its steps rebuild. A failure that cannot
be recovered from is the last thing that happens. All that follows it are the ends of the nodes
around, each with the same failure.
-/
namespace TextGrammar

inductive Step where
  | tries (node : Node) (cursor : Cursor)
  /-- A yield is put to an object of the kind, which may refuse it. -/
  | binds (kind name : String) (yield : Yield)
  | ends (node : Node) (outcome : Outcome Yield)

def repeatSteps (step : Object → Cursor → Outcome Yield × Object)
    (steps : Object → Cursor → List Step) : (fuel : Nat) → Object → Cursor → List Step
  | 0, _, _ => []
  | fuel + 1, object, cursor =>
    if cursor.isAtEnd then []
    else
      steps object cursor ++
        match step object cursor with
        | (.ok (_, next), object) =>
          if next.offset = cursor.offset then [] else repeatSteps step steps fuel object next
        | (.error _, _) => []

section Steps

variable [Engine] [Targets]

namespace Node

def framed (enter : Reference → Cursor → Outcome Value) (node : Node) (object : Object)
    (cursor : Cursor) (below : List Step) : List Step :=
  .tries node cursor :: (below ++ [.ends node (node.run enter object cursor).1])

mutual
def stepsBelow (enter : Reference → Cursor → Outcome Value)
    (entered : Reference → Cursor → List Step) : Node → Object → Cursor → List Step
  | .terminal _, _, _ => []
  | .nested type, _, cursor => entered (.type type) cursor
  | .rule name, _, cursor => entered (.rule name) cursor
  | .sequence parts, object, cursor | .collect parts, object, cursor =>
    stepsAll enter entered parts object cursor
  | .alternation parts, object, cursor => stepsFirst enter entered parts object cursor
  | .attribute name part, object, cursor =>
    framed enter part object cursor (stepsBelow enter entered part object cursor) ++
      match run enter part object cursor with
      | (.ok (yield, _), object) => [.binds object.kind name yield]
      | (.error _, _) => []
  | .ignore part, object, cursor | .optional part, object, cursor =>
    framed enter part object cursor (stepsBelow enter entered part object cursor)
  | .repetition part _, object, cursor =>
    repeatSteps (run enter part)
      (fun object cursor =>
        framed enter part object cursor (stepsBelow enter entered part object cursor))
      cursor.rest.length object cursor

def stepsAll (enter : Reference → Cursor → Outcome Value)
    (entered : Reference → Cursor → List Step) : List Node → Object → Cursor → List Step
  | [], _, _ => []
  | part :: parts, object, cursor =>
    framed enter part object cursor (stepsBelow enter entered part object cursor) ++
      match run enter part object cursor with
      | (.ok (_, next), object) => stepsAll enter entered parts object next
      | (.error _, _) => []

def stepsFirst (enter : Reference → Cursor → Outcome Value)
    (entered : Reference → Cursor → List Step) : List Node → Object → Cursor → List Step
  | [], _, _ => []
  | part :: parts, object, cursor =>
    framed enter part object cursor (stepsBelow enter entered part object cursor) ++
      match run enter part object cursor with
      | (.ok _, _) => []
      | (.error failure, object) =>
        if failure.isRecoverable then stepsFirst enter entered parts object cursor else []
end

def steps (enter : Reference → Cursor → Outcome Value) (entered : Reference → Cursor → List Step)
    (node : Node) (object : Object) (cursor : Cursor) : List Step :=
  framed enter node object cursor (stepsBelow enter entered node object cursor)

end Node

namespace Matcher

def enteredSteps (m : Matcher) : (depth : Nat) → Reference → Cursor → List Step
  | 0, _, _ => []
  | depth + 1, reference, cursor =>
    match m.resolve reference with
    | .ok (grammar, fresh) => grammar.steps (m.enter depth) (m.enteredSteps depth) fresh cursor
    | .error _ => []

def matchSteps (m : Matcher) (node : Node) (object : Object) (cursor : Cursor) : List Step :=
  node.steps (m.enter m.maxDepth) (m.enteredSteps m.maxDepth) object cursor

end Matcher

def Task.steps (m : Matcher) (depth fuel : Nat) (task : Task) (object : Object) (cursor : Cursor) :
    List Step :=
  match task with
  | .node grammar => grammar.steps (m.enter depth) (m.enteredSteps depth) object cursor
  | .all _ parts => Node.stepsAll (m.enter depth) (m.enteredSteps depth) parts object cursor
  | .first _ untried => Node.stepsFirst (m.enter depth) (m.enteredSteps depth) untried object cursor
  | .loop part .. =>
    repeatSteps (part.run (m.enter depth)) (part.steps (m.enter depth) (m.enteredSteps depth)) fuel
      object cursor
  | .enter reference => m.enteredSteps depth reference cursor

end Steps

/-- Fuel for every character that is left lets a loop take all of its steps. -/
def Task.Fits (fuel : Nat) (cursor : Cursor) : Task → Prop
  | .loop .. => cursor.rest.length ≤ fuel
  | _ => True

/-! ## Steps rebuild the object -/

/-- The number of references that are being followed and the object at hand, after a step. What is
bound while a reference is followed goes to an object of its own. -/
def Step.replay [Targets] : Nat × Object → Step → Nat × Object
  | (followed, object), .tries node _ => (followed + node.reference?.toList.length, object)
  | (followed, object), .ends node _ => (followed - node.reference?.toList.length, object)
  | (0, object), .binds _ name yield => (0, (bindYield name yield object).2)
  | (followed + 1, object), .binds .. => (followed + 1, object)

def replay [Targets] (object : Object) (steps : List Step) : Object :=
  (steps.foldl Step.replay (0, object)).2

theorem foldl_replay_ends [Targets] {steps : List Step}
    (h : ∀ step ∈ steps, ∃ node outcome, step = .ends node outcome) (state : Nat × Object) :
    (steps.foldl Step.replay state).2 = state.2 := by
  induction steps generalizing state with
  | nil => rfl
  | cons step steps ih =>
    obtain ⟨node, outcome, rfl⟩ := h _ List.mem_cons_self
    rw [List.foldl_cons, ih (fun step hstep => h step (List.mem_cons_of_mem _ hstep))]
    rfl

/-! ## Nothing follows a fatal failure -/

def isFatal : Outcome Yield → Bool
  | .ok _ => false
  | .error failure => !failure.isRecoverable

/-- A fatal failure among the steps is what they come to, and only ends with it follow. -/
def Escapes (steps : List Step) (outcome : Outcome Yield) : Prop :=
  ∀ before sub failure after, steps = before ++ .ends sub (.error failure) :: after →
    failure.isRecoverable = false →
      outcome = .error failure ∧ ∀ step ∈ after, ∃ outer, step = .ends outer (.error failure)

namespace Escapes

variable {steps steps' : List Step} {outcome outcome' : Outcome Yield}

theorem nil (outcome : Outcome Yield) : Escapes [] outcome := by
  intro before sub failure after hsteps
  simp at hsteps

theorem binds (kind name : String) (yield : Yield) (outcome : Outcome Yield) :
    Escapes [.binds kind name yield] outcome := by
  intro before sub failure after hsteps
  rcases List.cons_eq_append_iff.mp hsteps with ⟨_, hcons⟩ | ⟨before', _, hnil⟩
  · cases hcons
  · simp at hnil

theorem imp (h : Escapes steps outcome) (hsame : isFatal outcome = true → outcome' = outcome) :
    Escapes steps outcome' := by
  intro before sub failure after hsteps hfatal
  obtain ⟨rfl, hafter⟩ := h before sub failure after hsteps hfatal
  exact ⟨hsame (by simp [isFatal, hfatal]), hafter⟩

theorem append (h : Escapes steps outcome) (hcalm : isFatal outcome = false)
    (h' : Escapes steps' outcome') : Escapes (steps ++ steps') outcome' := by
  intro before sub failure after hsteps hfatal
  rcases List.append_eq_append_iff.mp hsteps with ⟨middle, rfl, hmiddle⟩ | ⟨middle, rfl, hmiddle⟩
  · exact h' middle sub failure after hmiddle hfatal
  · cases middle with
    | nil => exact h' [] sub failure after hmiddle.symm hfatal
    | cons step middle =>
      obtain ⟨rfl, rfl⟩ := List.cons.inj hmiddle
      obtain ⟨rfl, _⟩ := h before sub failure middle rfl hfatal
      simp [isFatal, hfatal] at hcalm

theorem tries (h : Escapes steps outcome) (node : Node) (cursor : Cursor) :
    Escapes (.tries node cursor :: steps) outcome := by
  intro before sub failure after hsteps hfatal
  rcases List.cons_eq_append_iff.mp hsteps with ⟨_, hcons⟩ | ⟨before', rfl, hsteps'⟩
  · cases hcons
  · exact h before' sub failure after hsteps' hfatal

theorem ends (h : Escapes steps outcome) (node : Node) :
    Escapes (steps ++ [.ends node outcome]) outcome := by
  intro before sub failure after hsteps hfatal
  rcases List.append_eq_append_iff.mp hsteps with ⟨middle, rfl, hmiddle⟩ | ⟨middle, rfl, hmiddle⟩
  · obtain ⟨_, hend⟩ | ⟨_, _, hnil⟩ := List.cons_eq_append_iff.mp hmiddle
    · cases hend
      exact ⟨rfl, by simp⟩
    · simp at hnil
  · cases middle with
    | nil =>
      cases hmiddle
      exact ⟨rfl, by simp⟩
    | cons step middle =>
      obtain ⟨rfl, rfl⟩ := List.cons.inj hmiddle
      obtain ⟨rfl, hafter⟩ := h before sub failure middle rfl hfatal
      refine ⟨rfl, ?_⟩
      intro step hstep
      rcases List.mem_append.mp hstep with hstep | hstep
      · exact hafter step hstep
      · exact ⟨node, List.mem_singleton.mp hstep⟩

end Escapes

/-- Steps that come to the outcome and make the one object of the other. While references are
followed, they make nothing of the object at hand. -/
structure Recounts [Targets] (steps : List Step) (object : Object) (outcome : Outcome Yield)
    (after : Object) : Prop where
  escapes : Escapes steps outcome
  here : steps.foldl Step.replay (0, object) = (0, after)
  away : ∀ followed other, steps.foldl Step.replay (followed + 1, other) = (followed + 1, other)

private theorem exists_fuel {cursor : Cursor} {fuel : Nat} (hend : cursor.isAtEnd = false)
    (hfits : cursor.rest.length ≤ fuel) : ∃ fuel', fuel = fuel' + 1 := by
  cases fuel with
  | zero => simp [Cursor.isAtEnd, List.length_eq_zero_iff.mp (Nat.le_zero.mp hfits)] at hend
  | succ fuel => exact ⟨fuel, rfl⟩

section Recounting

variable [Targets]

namespace Recounts

variable {steps steps' : List Step} {node : Node} {cursor : Cursor}
  {object between after : Object} {outcome outcome' : Outcome Yield}

theorem nil (object : Object) (outcome : Outcome Yield) : Recounts [] object outcome object :=
  ⟨.nil outcome, rfl, fun _ _ => rfl⟩

theorem binds {kind name : String} {yield : Yield} {result : Except Failure Unit}
    (h : bindYield name yield object = (result, after)) :
    Recounts [.binds kind name yield] object outcome after := by
  refine ⟨.binds kind name yield outcome, ?_, fun _ _ => rfl⟩
  rw [List.foldl_cons, List.foldl_nil, Step.replay, h]

theorem imp (h : Recounts steps object outcome after)
    (hsame : isFatal outcome = true → outcome' = outcome) :
    Recounts steps object outcome' after :=
  ⟨h.escapes.imp hsame, h.here, h.away⟩

theorem append (h : Recounts steps object outcome between) (hcalm : isFatal outcome = false)
    (h' : Recounts steps' between outcome' after) :
    Recounts (steps ++ steps') object outcome' after := by
  refine ⟨h.escapes.append hcalm h'.escapes, ?_, ?_⟩
  · rw [List.foldl_append, h.here, h'.here]
  · intro followed other
    rw [List.foldl_append, h.away, h'.away]

variable [Engine] {m : Matcher} {depth : Nat}

theorem framed (hnode : Evaluates m depth (.node node) object cursor outcome after)
    (hplain : node.reference? = none)
    (h : Recounts (node.stepsBelow (m.enter depth) (m.enteredSteps depth) object cursor) object
      outcome after) :
    Recounts (node.steps (m.enter depth) (m.enteredSteps depth) object cursor) object outcome
      after := by
  rw [Node.steps, Node.framed, evaluates_iff_run.mp hnode]
  refine ⟨(h.escapes.ends node).tries node cursor, ?_, ?_⟩
  · simp only [List.foldl_cons, List.foldl_append, List.foldl_nil, Step.replay, hplain,
      Option.toList_none, List.length_nil, Nat.add_zero, h.here, Nat.sub_zero]
  · intro followed other
    simp only [List.foldl_cons, List.foldl_append, List.foldl_nil, Step.replay, hplain,
      Option.toList_none, List.length_nil, Nat.add_zero, h.away, Nat.sub_zero]

/-- What a reference makes of its own object is nothing to the object at hand. -/
theorem followed {reference : Reference} {fresh built : Object}
    (hnode : Evaluates m depth (.node node) object cursor outcome object)
    (hreference : node.reference? = some reference)
    (h : Recounts (node.stepsBelow (m.enter depth) (m.enteredSteps depth) object cursor) fresh
      outcome built) :
    Recounts (node.steps (m.enter depth) (m.enteredSteps depth) object cursor) object outcome
      object := by
  rw [Node.steps, Node.framed, evaluates_iff_run.mp hnode]
  refine ⟨(h.escapes.ends node).tries node cursor, ?_, ?_⟩
  · simp only [List.foldl_cons, List.foldl_append, List.foldl_nil, Step.replay, hreference,
      Option.toList_some, List.length_singleton, h.away, Nat.add_sub_cancel]
  · intro followed other
    simp only [List.foldl_cons, List.foldl_append, List.foldl_nil, Step.replay, hreference,
      Option.toList_some, List.length_singleton, h.away, Nat.add_sub_cancel]

end Recounts

def Task.Recounted (steps : List Step) (object : Object) (outcome : Outcome Yield)
    (after : Object) : Task → Prop
  | .enter _ => ∃ fresh built, Recounts steps fresh outcome built
  | _ => Recounts steps object outcome after

variable [Engine]

theorem Evaluates.recounted {m : Matcher} {depth : Nat} {task : Task} {object after : Object}
    {cursor : Cursor} {outcome : Outcome Yield}
    (h : Evaluates m depth task object cursor outcome after) (fuel : Nat)
    (hfits : task.Fits fuel cursor) :
    task.Recounted (task.steps m depth fuel object cursor) object outcome after := by
  induction h generalizing fuel with
  | terminal pattern => exact .framed (.terminal pattern) rfl (.nil _ _)
  | nested h ih =>
    obtain ⟨_, _, hbuilt⟩ := ih fuel trivial
    exact .followed (.nested h) rfl hbuilt
  | rule h ih =>
    obtain ⟨_, _, hbuilt⟩ := ih fuel trivial
    exact .followed (.rule h) rfl hbuilt
  | sequence h ih => exact .framed (.sequence h) rfl ((ih fuel trivial).imp nofun)
  | sequenceFail h ih => exact .framed (.sequenceFail h) rfl (ih fuel trivial)
  | collect h ih => exact .framed (.collect h) rfl (ih fuel trivial)
  | alternation h ih => exact .framed (.alternation h) rfl (ih fuel trivial)
  | attributeBound h hbind ih =>
    refine .framed (.attributeBound h hbind) rfl ?_
    simp only [Node.stepsBelow, evaluates_iff_run.mp h]
    exact (ih fuel trivial).append rfl (.binds hbind)
  | attributeRefused h hbind ih =>
    refine .framed (.attributeRefused h hbind) rfl ?_
    simp only [Node.stepsBelow, evaluates_iff_run.mp h]
    exact (ih fuel trivial).append rfl (.binds hbind)
  | attributeFail h ih =>
    refine .framed (.attributeFail h) rfl ?_
    simp only [Node.stepsBelow, evaluates_iff_run.mp h, List.append_nil]
    exact ih fuel trivial
  | ignore h ih => exact .framed (.ignore h) rfl ((ih fuel trivial).imp nofun)
  | ignoreFail h ih => exact .framed (.ignoreFail h) rfl (ih fuel trivial)
  | optional h ih => exact .framed (.optional h) rfl (ih fuel trivial)
  | optionalSkip h hrecover ih =>
    exact .framed (.optionalSkip h hrecover) rfl
      ((ih fuel trivial).imp (by simp [isFatal, hrecover]))
  | optionalFail h hrecover ih => exact .framed (.optionalFail h hrecover) rfl (ih fuel trivial)
  | repetition h ih => exact .framed (.repetition h) rfl (ih _ (Nat.le_refl _))
  | allNil | firstNil => exact .nil _ _
  | allCons h _ ih ih' =>
    simp only [Task.steps, Node.stepsAll, evaluates_iff_run.mp h]
    exact (ih fuel trivial).append rfl (ih' fuel trivial)
  | allFail h ih =>
    simp only [Task.steps, Node.stepsAll, evaluates_iff_run.mp h, List.append_nil]
    exact ih fuel trivial
  | firstOk h ih =>
    simp only [Task.steps, Node.stepsFirst, evaluates_iff_run.mp h, List.append_nil]
    exact ih fuel trivial
  | firstNext h hrecover _ ih ih' =>
    simp only [Task.steps, Node.stepsFirst, evaluates_iff_run.mp h, hrecover, ↓reduceIte]
    exact (ih fuel trivial).append (by simp [isFatal, hrecover]) (ih' fuel trivial)
  | firstFail h hrecover ih =>
    simp only [Task.steps, Node.stepsFirst, evaluates_iff_run.mp h, hrecover, Bool.false_eq_true,
      ↓reduceIte, List.append_nil]
    exact ih fuel trivial
  | loopEnd hend =>
    cases fuel with
    | zero => exact .nil _ _
    | succ fuel =>
      simp only [Task.steps, repeatSteps, hend, ↓reduceIte]
      exact .nil _ _
  | loopStop hend h hrecover ih =>
    obtain ⟨fuel, rfl⟩ := exists_fuel hend hfits
    simp only [Task.steps, repeatSteps, hend, evaluates_iff_run.mp h, Bool.false_eq_true,
      ↓reduceIte, List.append_nil]
    exact (ih fuel trivial).imp (by simp [isFatal, hrecover])
  | loopStep hend h hmoved _ ih ih' =>
    obtain ⟨fuel, rfl⟩ := exists_fuel hend hfits
    have hlt := h.reaches.length_lt hmoved
    have hnext := ih' fuel (Nat.le_of_lt_succ (Nat.lt_of_lt_of_le hlt hfits))
    simp only [Task.steps, repeatSteps, hend, evaluates_iff_run.mp h, hmoved, Bool.false_eq_true,
      ↓reduceIte]
    exact (ih fuel trivial).append rfl hnext
  | loopStuck hend h hmoved ih =>
    obtain ⟨fuel, rfl⟩ := exists_fuel hend hfits
    simp only [Task.steps, repeatSteps, hend, evaluates_iff_run.mp h, hmoved, Bool.false_eq_true,
      ↓reduceIte, List.append_nil]
    exact (ih fuel trivial).imp nofun
  | loopFail hend h _ ih =>
    obtain ⟨fuel, rfl⟩ := exists_fuel hend hfits
    simp only [Task.steps, repeatSteps, hend, evaluates_iff_run.mp h, Bool.false_eq_true,
      ↓reduceIte, List.append_nil]
    exact ih fuel trivial
  | @enterUnresolved depth object _ _ _ hresolve =>
    refine ⟨object, object, ?_⟩
    cases depth with
    | zero => exact .nil _ _
    | succ depth =>
      simp only [Task.steps, Matcher.enteredSteps, hresolve]
      exact .nil _ _
  | @enterTooDeep object => exact ⟨object, object, .nil _ _⟩
  | @enter _ _ _ _ _ fresh _ _ built hresolve _ ih =>
    refine ⟨fresh, built, ?_⟩
    simp only [Task.steps, Matcher.enteredSteps, hresolve]
    exact (ih fuel trivial).imp nofun
  | @enterFail _ _ _ _ _ fresh _ built hresolve _ ih =>
    refine ⟨fresh, built, ?_⟩
    simp only [Task.steps, Matcher.enteredSteps, hresolve]
    exact ih fuel trivial

theorem Matcher.recounts_matchNode (m : Matcher) (node : Node) (object : Object)
    (cursor : Cursor) :
    Recounts (m.matchSteps node object cursor) object (m.matchNode node object cursor).1
      (m.matchNode node object cursor).2 :=
  (evaluates_matchNode m node object cursor).recounted 0 trivial

/-- A fatal failure escapes unchanged. When any node that a match tries, at any depth, ends with a
failure that cannot be recovered from, the match ends with this failure, and from there on no node
is tried and nothing is bound: nodes only end, all with this failure, and the object is left as the
steps before made it. So when a match succeeds or fails recoverably, all failures on the way to it
were recoverable. -/
theorem Matcher.matchSteps_fatal_escapes (m : Matcher) (node : Node) (object : Object)
    (cursor : Cursor) :
    (∀ before sub failure after,
      m.matchSteps node object cursor = before ++ .ends sub (.error failure) :: after →
      failure.isRecoverable = false →
        (m.matchNode node object cursor).1 = .error failure ∧
          (∀ step ∈ after, ∃ outer, step = .ends outer (.error failure)) ∧
          (m.matchNode node object cursor).2 = replay object before) ∧
    ((∀ failure, (m.matchNode node object cursor).1 = .error failure →
        failure.isRecoverable = true) →
      ∀ sub failure, .ends sub (.error failure) ∈ m.matchSteps node object cursor →
        failure.isRecoverable = true) := by
  have hrecounts := m.recounts_matchNode node object cursor
  refine ⟨?_, ?_⟩
  · intro before sub failure after hsteps hfatal
    obtain ⟨houtcome, hafter⟩ := hrecounts.escapes before sub failure after hsteps hfatal
    refine ⟨houtcome, hafter, ?_⟩
    have hhere := hrecounts.here
    rw [hsteps, List.foldl_append] at hhere
    have hends : ∀ step ∈ .ends sub (.error failure) :: after, ∃ node outcome,
        step = .ends node outcome := by
      intro step hstep
      rcases List.mem_cons.mp hstep with rfl | hstep
      · exact ⟨sub, _, rfl⟩
      · obtain ⟨outer, rfl⟩ := hafter step hstep
        exact ⟨outer, _, rfl⟩
    rw [replay, ← foldl_replay_ends hends, hhere]
  · intro hrecover sub failure hmem
    obtain ⟨before, after, hsteps⟩ := List.append_of_mem hmem
    cases hfatal : failure.isRecoverable with
    | true => rfl
    | false =>
      obtain ⟨houtcome, _⟩ := hrecounts.escapes before sub failure after hsteps hfatal
      rw [← hfatal, hrecover failure houtcome]

end Recounting

/-- A loop of which the second round tries an undefined rule after an alternative that fails
recoverably, and a loop that such an alternative ends. -/
theorem Matcher.matchSteps_fatal_escapes_missing :
    let broken : Node :=
      .optional (.repetition (.alternation [.attribute "x" (.terminal "a"), .rule "none"]) true)
    let sound : Node :=
      .repetition (.alternation [.attribute "x" (.terminal "a"), .terminal "b"]) true
    let m : Matcher := { }
    let object := Object.record "item"
    let steps := m.matchSteps broken object (Cursor.start ['a', 'b'])
    let failure : Failure := .undefinedRule "none"
    (steps = steps.take 15 ++ .ends (.rule "none") (.error failure) :: steps.drop 16 ∧
      failure.isRecoverable = false ∧ steps.length = 19 ∧
      (m.matchNode broken object (Cursor.start ['a', 'b'])).1 = .error failure ∧
      (∀ step ∈ steps.drop 16, ∃ outer, step = .ends outer (.error failure)) ∧
      (m.matchNode broken object (Cursor.start ['a', 'b'])).2 = replay object (steps.take 15) ∧
      replay object (steps.take 15) = ⟨"item", .record, [("x", .text "a")]⟩) ∧
    (m.matchNode sound object (Cursor.start ['b', 'c'])).1.isOk = true ∧
      ∀ sub failure, .ends sub (.error failure) ∈
        m.matchSteps sound object (Cursor.start ['b', 'c']) → failure.isRecoverable = true := by
  intro broken sound m object steps failure
  have hsteps : steps = steps.take 15 ++ .ends (.rule "none") (.error failure) :: steps.drop 16 :=
    by rfl
  have hsound : (m.matchNode sound object (Cursor.start ['b', 'c'])).1.isOk = true := by rfl
  obtain ⟨houtcome, hafter, hobject⟩ :=
    (m.matchSteps_fatal_escapes broken object (Cursor.start ['a', 'b'])).1 _ _ failure _ hsteps rfl
  refine ⟨⟨hsteps, rfl, rfl, houtcome, hafter, hobject, by rfl⟩, hsound, ?_⟩
  apply (m.matchSteps_fatal_escapes sound object (Cursor.start ['b', 'c'])).2
  intro failure hfailure
  rw [hfailure] at hsound
  cases hsound

end TextGrammar
