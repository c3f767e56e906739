import TextGrammar.Proofs.DepthLimit
import TextGrammar.RuleSet
import TextGrammar.Terminal
/-!
# Parsing and referencing

A parse starts with its object at hand and enters nothing, while a reference is entered and takes
one level of nesting. So a parse under a limit ends as the match of a reference does under the next
limit.
-/
namespace TextGrammar

def Reference.toNode : Reference → Node
  | .rule name => .rule name
  | .type name => .nested name

theorem Reference.run_toNode [Engine] [Targets] (enter : Reference → Cursor → Outcome Value)
    (reference : Reference) (object : Object) (cursor : Cursor) :
    reference.toNode.run enter object cursor = (yieldObject (enter reference cursor), object) := by
  cases reference <;> rw [Reference.toNode, Node.run]

/-- A parse under `limit` and the match of a reference under the next limit end alike. -/
inductive SameEnd (limit : Nat) : Except Failure Parsed → Outcome Yield → Prop
  | built (object : Object) (rest : Cursor) :
    SameEnd limit (.ok ⟨object, rest⟩) (.ok (.value object.toValue, rest))
  | tooDeep (position : Nat) :
    SameEnd limit (.error (.tooDeep limit position)) (.error (.tooDeep (limit + 1) position))
  | failed {failure : Failure} :
    (∀ reported position, failure ≠ .tooDeep reported position) →
    SameEnd limit (.error failure) (.error failure)

theorem SameEnd.withLimit {limit : Nat} {failure : Failure}
    (hlimit : ∀ reported position, failure = .tooDeep reported position → reported = limit) :
    SameEnd limit (.error failure) (.error (failure.withLimit (limit + 1))) := by
  cases failure with
  | tooDeep reported position =>
    rw [hlimit reported position rfl]
    exact .tooDeep position
  | _ => exact .failed nofun

theorem Evaluates.toNode [Engine] [Targets] {m : Matcher} {depth : Nat} {reference : Reference}
    {object : Object} {cursor : Cursor} {outcome : Outcome Yield}
    (h : Evaluates m depth (.enter reference) object cursor outcome object) :
    Evaluates m depth (.node reference.toNode) object cursor outcome object := by
  cases reference with
  | rule name => exact .rule h
  | type name => exact .nested h

/-- The level that the reference takes is the one by which the limits differ, so the grammar behind
it is matched with the same levels to spare. -/
theorem Matcher.parseObject_sameEnd [Engine] [Targets] {m : Matcher} {reference : Reference}
    {grammar : Node} {fresh : Object} (hresolve : m.resolve reference = .ok (grammar, fresh))
    (limit : Nat) (text : List Char) (object : Object) :
    let matched := (m.withMaxDepth (limit + 1)).matchNode reference.toNode object
      (Cursor.start text)
    SameEnd limit ((m.withMaxDepth limit).parseObject grammar fresh text) matched.1 ∧
      matched.2 = object := by
  intro matched
  have hbody := evaluates_matchNode (m.withMaxDepth limit) grammar fresh (Cursor.start text)
  have hnext := hbody.withMaxDepth (limit + 1) 0 (.inl rfl)
  replace hresolve : (m.withMaxDepth (limit + 1)).resolve reference = .ok (grammar, fresh) :=
    hresolve
  rw [parseObject, parseInto]
  rcases hmatch : (m.withMaxDepth limit).matchNode grammar fresh (Cursor.start text) with
    ⟨failure | ⟨yield, rest⟩, built⟩ <;> rw [hmatch] at hbody hnext
  · have hreference : matched = (.error (failure.withLimit (limit + 1)), object) :=
      evaluates_iff_run.mp (Evaluates.enterFail hresolve hnext).toNode
    rw [hreference]
    refine ⟨.withLimit ?_, rfl⟩
    rintro reported position rfl
    exact hbody.limit_eq_maxDepth
  · have hreference : matched = (.ok (.value built.toValue, rest), object) :=
      evaluates_iff_run.mp (Evaluates.enter hresolve hnext).toNode
    rw [hreference]
    exact ⟨.built built rest, rfl⟩

/-- Parsing agrees with referencing. A parse with a rule or a type under some limit and the match of
a reference to it under the next limit build the same object and stop at the same cursor, or fail
alike, but for the limit in the failure that reports it. The object at which the reference is
matched stays as it is. -/
theorem parse_ends_as_reference [Engine] [Targets] :
    (∀ (set : RuleSet) (name : String), set.rules.contains name = true →
      ∀ (limit : Nat) (text : List Char) (object : Object),
        let matched := { set with maxDepth := limit + 1 }.matcher.matchNode (.rule name) object
          (Cursor.start text)
        SameEnd limit ({ set with maxDepth := limit }.parse name text) matched.1 ∧
          matched.2 = object) ∧
    (∀ (m : Matcher) (name : String) (grammar : Node), m.rules.find? name = some grammar →
      ∀ (limit : Nat) (text : List Char) (object : Object),
        let matched := (m.withMaxDepth (limit + 1)).matchNode (.rule name) object
          (Cursor.start text)
        SameEnd limit ((m.withMaxDepth limit).parseObject grammar (Object.record name) text)
            matched.1 ∧ matched.2 = object) ∧
    ∀ (m : Matcher) (type : String) (limit : Nat) (text : List Char) (object : Object),
      let matched := (m.withMaxDepth (limit + 1)).matchNode (.nested type) object
        (Cursor.start text)
      SameEnd limit ((m.withMaxDepth limit).parse type text) matched.1 ∧ matched.2 = object := by
  have hrule (m : Matcher) (name : String) (grammar : Node)
      (hfind : m.rules.find? name = some grammar) :
      m.resolve (.rule name) = .ok (grammar, Object.record name) := by
    simp only [Matcher.resolve, hfind]
  refine ⟨?_, ?_, ?_⟩
  · intro set name hname limit text object
    obtain ⟨grammar, hfind⟩ := Option.isSome_iff_exists.mp hname
    simp only [RuleSet.parse, hfind]
    exact Matcher.parseObject_sameEnd (hrule set.matcher name grammar hfind) limit text object
  · intro m name grammar hfind limit text object
    exact Matcher.parseObject_sameEnd (hrule m name grammar hfind) limit text object
  · intro m type limit text object
    have hresolve : m.resolve (.type type) =
        .ok ((m.types type).grammar, (m.types type).instantiate type) := rfl
    exact Matcher.parseObject_sameEnd hresolve limit text object

/-- Two letters take two references where one is allowed, and one pair of parentheses takes one. -/
theorem parse_ends_as_reference_boundary :
    let set : RuleSet := ⟨[("item", .collect [.terminal "a", .optional (.rule "item")])], none, 1⟩
    let deeper : RuleSet := { set with maxDepth := 2 }
    let object := Object.record "test"
    let m : Matcher := { }
    let nest := (m.withMaxDepth 2).matchNode (.nested "Nest") object (Cursor.start ['(', 'x', ')'])
    set.rules.contains "item" = true ∧
      set.parse "item" ['a', 'a'] = .error (.tooDeep 1 2) ∧
      deeper.matcher.matchNode (.rule "item") object (Cursor.start ['a', 'a']) =
        (.error (.tooDeep 2 2), object) ∧
      SameEnd 1 (set.parse "item" ['a', 'a'])
        (deeper.matcher.matchNode (.rule "item") object (Cursor.start ['a', 'a'])).1 ∧
      nest.1.isOk = true ∧ nest.2 = object ∧
      SameEnd 1 ((m.withMaxDepth 1).parse "Nest" ['(', 'x', ')']) nest.1 := by
  intro set deeper object m nest
  obtain ⟨hrule, _⟩ := parse_ends_as_reference.1 set "item" (by rfl) 1 ['a', 'a'] object
  obtain ⟨htype, hobject⟩ := parse_ends_as_reference.2.2 m "Nest" 1 ['(', 'x', ')'] object
  exact ⟨by rfl, by rfl, by rfl, hrule, by rfl, hobject, htype⟩

end TextGrammar
