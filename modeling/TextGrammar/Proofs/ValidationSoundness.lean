import TextGrammar.GrammarFile.Basic
import TextGrammar.Proofs.Evaluation
import TextGrammar.Terminal
/-!
# Validated grammars

Validation looks at one tree and follows no rule. When all rules of a set pass it, a match that
follows rules to any depth still cannot meet an undefined rule or a malformed pattern, and a
record refuses a binding only to itself.
-/
namespace TextGrammar

/-- The failures that a validated grammar without types can still end in. -/
def Failure.isDynamic : Failure → Bool
  | .mismatch .. | .noAlternative .. | .tooFew _ | .noProgress _ | .tooDeep .. => true
  | .refusedBinding _ _ reason => reason = .selfReference
  | .unrecognized _ | .invalidPattern _ | .trailingInput _ => false

namespace Node

mutual
def isTypeFree : Node → Bool
  | .terminal _ | .rule _ => true
  | .nested _ => false
  | .sequence parts | .collect parts | .alternation parts => allTypeFree parts
  | .attribute _ part | .ignore part | .optional part | .repetition part _ => part.isTypeFree

def allTypeFree : List Node → Bool
  | [] => true
  | part :: parts => part.isTypeFree && allTypeFree parts
end

theorem allTypeFree_iff (parts : List Node) :
    allTypeFree parts = true ↔ ∀ part ∈ parts, part.isTypeFree = true := by
  induction parts with
  | nil => simp [allTypeFree]
  | cons part parts ih => simp [allTypeFree, ih]

theorem validateAll_eq_ok_iff [Engine] (rules : NameMap Node) (parts : List Node) :
    validateAll rules parts = .ok () ↔ ∀ part ∈ parts, part.validate rules = .ok () := by
  induction parts with
  | nil => simp [validateAll]
  | cons part parts ih =>
    rw [validateAll]
    cases hpart : part.validate rules with
    | ok => simp [hpart, ih]
    | error failure => simp [hpart]

structure Validated [Engine] (rules : NameMap Node) (node : Node) : Prop where
  validate : node.validate rules = .ok ()
  typeFree : node.isTypeFree = true

section

variable [Engine] {rules : NameMap Node} {parts : List Node} {part : Node} {name : String}

theorem Validated.compile {pattern : String} (h : Validated rules (.terminal pattern)) :
    ∃ program, Engine.compile pattern = some program := by
  have hvalid := h.validate
  rw [Node.validate] at hvalid
  split at hvalid
  · next hsome => exact Option.isSome_iff_exists.mp hsome
  · cases hvalid

theorem Validated.find? (h : Validated rules (.rule name)) :
    ∃ grammar, rules.find? name = some grammar := by
  have hvalid := h.validate
  rw [Node.validate, NameMap.contains] at hvalid
  split at hvalid
  · next hsome => exact Option.isSome_iff_exists.mp hsome
  · cases hvalid

theorem not_validated_nested {type : String} : ¬ Validated rules (.nested type) := by
  intro h
  have hfree := h.typeFree
  rw [isTypeFree] at hfree
  cases hfree

private theorem validated_all (hvalid : validateAll rules parts = .ok ())
    (hfree : allTypeFree parts = true) : ∀ part ∈ parts, Validated rules part :=
  fun part hpart => ⟨(validateAll_eq_ok_iff rules parts).mp hvalid part hpart,
    (allTypeFree_iff parts).mp hfree part hpart⟩

theorem Validated.children {node : Node} (h : Validated rules node) :
    ∀ part ∈ node.children, Validated rules part := by
  obtain ⟨hvalid, hfree⟩ := h
  cases node with
  | terminal | nested | rule => simp [Node.children]
  | sequence | collect | alternation =>
    rw [Node.validate] at hvalid
    rw [isTypeFree] at hfree
    exact validated_all hvalid hfree
  | «attribute» | ignore | optional | repetition =>
    rw [Node.validate] at hvalid
    rw [isTypeFree] at hfree
    intro part hpart
    rw [Node.children, List.mem_singleton] at hpart
    rw [hpart]
    exact ⟨hvalid, hfree⟩

end

end Node

/-- The object is still a record, and a failure is one that validation cannot find. -/
def EndsDynamic (outcome : Outcome Yield) (after : Object) : Prop :=
  after.schema = .record ∧ ∀ failure, outcome = .error failure → failure.isDynamic = true

private theorem endsDynamic_ok {result : Yield × Cursor} {after : Object}
    (h : after.schema = .record) : EndsDynamic (.ok result) after :=
  ⟨h, fun _ hfailure => nomatch hfailure⟩

private theorem endsDynamic_error {failure : Failure} {after : Object}
    (h : after.schema = .record) (hdynamic : failure.isDynamic = true) :
    EndsDynamic (.error failure) after := by
  refine ⟨h, ?_⟩
  rintro _ ⟨⟩
  exact hdynamic

private theorem bindYield_endsDynamic [Targets] {name : String} {yield : Yield}
    {object bound : Object} {answer : Except Failure Unit} (hobject : object.schema = .record)
    (h : bindYield name yield object = (answer, bound)) (next : Cursor) :
    EndsDynamic (answer.map fun _ => (.target, next)) bound := by
  obtain ⟨kind, schema, attributes⟩ := object
  cases hobject
  rcases answer with failure | _
  · obtain ⟨_, rfl, rfl⟩ := bindYield_record_eq_error h
    exact endsDynamic_error rfl rfl
  · obtain ⟨_, _, rfl⟩ := bindYield_record_eq_ok h
    exact endsDynamic_ok rfl

private theorem finishLoop_endsDynamic {allowZero : Bool} {start : Nat} {values : List Value}
    {bound : Bool} {cursor : Cursor} {object : Object} (hobject : object.schema = .record) :
    EndsDynamic (finishLoop allowZero start values bound cursor) object := by
  rcases finishLoop_cases allowZero start values bound cursor with h | h <;> rw [h]
  · exact endsDynamic_error hobject rfl
  · exact endsDynamic_ok hobject

theorem Evaluates.endsDynamic [Engine] [Targets] {m : Matcher} {depth : Nat} {task : Task}
    {object : Object} {cursor : Cursor} {outcome : Outcome Yield} {after : Object}
    (hrules : ∀ name grammar, m.rules.find? name = some grammar → grammar.Validated m.rules)
    (h : Evaluates m depth task object cursor outcome after) :
    object.schema = .record → (∀ node ∈ task.nodes, node.Validated m.rules) →
      EndsDynamic outcome after := by
  induction h with
  | terminal pattern =>
    intro hobject hnodes
    obtain ⟨program, hprogram⟩ := (hnodes _ (List.mem_singleton_self _)).compile
    obtain ⟨hnone, _⟩ | ⟨_, _, ⟨_, hmatch⟩ | ⟨length, _, hmatch⟩⟩ := matchTerminal_cases pattern _
    · rw [hprogram] at hnone
      cases hnone
    · rw [hmatch]
      exact endsDynamic_error hobject rfl
    · rw [hmatch]
      exact endsDynamic_ok hobject
  | nested _ _ =>
    intro _ hnodes
    exact absurd (hnodes _ (List.mem_singleton_self _)) Node.not_validated_nested
  | rule _ ih =>
    intro hobject hnodes
    exact ih hobject hnodes
  | sequence _ ih | ignore _ ih | optionalSkip _ _ ih =>
    intro hobject hnodes
    exact endsDynamic_ok (ih hobject (hnodes _ (List.mem_singleton_self _)).children).1
  | sequenceFail _ ih | collect _ ih | alternation _ ih | attributeFail _ ih | ignoreFail _ ih
  | optional _ ih | optionalFail _ _ ih | repetition _ ih =>
    intro hobject hnodes
    exact ih hobject (hnodes _ (List.mem_singleton_self _)).children
  | @attributeBound _ _ _ _ _ _ next _ _ _ hbind ih
  | @attributeRefused _ _ _ _ _ _ next _ _ _ _ hbind ih =>
    intro hobject hnodes
    have hpart := ih hobject (hnodes _ (List.mem_singleton_self _)).children
    exact bindYield_endsDynamic hpart.1 hbind next
  | allNil =>
    intro hobject _
    exact endsDynamic_ok hobject
  | firstNil =>
    intro hobject _
    exact endsDynamic_error hobject rfl
  | allCons _ _ ih ih' | firstNext _ _ _ ih ih' =>
    intro hobject hnodes
    obtain ⟨hpart, hparts⟩ := List.forall_mem_cons.mp hnodes
    exact ih' (ih hobject (List.forall_mem_singleton.mpr hpart)).1 hparts
  | allFail _ ih | firstOk _ ih | firstFail _ _ ih =>
    intro hobject hnodes
    exact ih hobject (List.forall_mem_singleton.mpr (List.forall_mem_cons.mp hnodes).1)
  | loopEnd =>
    intro hobject _
    exact finishLoop_endsDynamic hobject
  | loopStop _ _ _ ih =>
    intro hobject hnodes
    exact finishLoop_endsDynamic (ih hobject hnodes).1
  | loopStep _ _ _ _ ih ih' =>
    intro hobject hnodes
    exact ih' (ih hobject hnodes).1 hnodes
  | loopStuck _ _ _ ih =>
    intro hobject hnodes
    exact endsDynamic_error (ih hobject hnodes).1 rfl
  | loopFail _ _ _ ih =>
    intro hobject hnodes
    exact ih hobject hnodes
  | enterUnresolved hresolve =>
    intro _ hnodes
    obtain ⟨name, rfl, hnone, _⟩ := Matcher.resolve_eq_error hresolve
    obtain ⟨grammar, hfind⟩ := (hnodes _ (List.mem_singleton_self _)).find?
    rw [hnone] at hfind
    cases hfind
  | enterTooDeep =>
    intro hobject _
    exact endsDynamic_error hobject rfl
  | enter =>
    intro hobject _
    exact endsDynamic_ok hobject
  | @enterFail _ _ _ reference _ _ _ _ hresolve _ ih =>
    intro hobject hnodes
    cases reference with
    | type name =>
      exact absurd (hnodes _ (List.mem_singleton_self _)) Node.not_validated_nested
    | rule name =>
      obtain ⟨hfind, rfl⟩ := Matcher.resolve_rule_eq_ok hresolve
      have hbody := ih rfl (List.forall_mem_singleton.mpr (hrules _ _ hfind))
      exact ⟨hobject, hbody.2⟩

/-! ## Rule sets and grammar files -/

theorem NameMap.mem_of_find? {α : Type} {map : NameMap α} {name : String} {value : α}
    (h : map.find? name = some value) : value ∈ map.map Prod.snd := by
  obtain ⟨before, after, rfl, _⟩ := List.lookup_eq_some_iff.mp h
  simp

def RuleSet.AllValidated [Engine] (set : RuleSet) : Prop :=
  ∀ grammar ∈ set.rules.map Prod.snd, grammar.Validated set.rules

theorem RuleSet.allValidated_of_validate [Engine] {set : RuleSet} (hvalid : set.validate = .ok ())
    (hfree : ∀ grammar ∈ set.rules.map Prod.snd, grammar.isTypeFree = true) :
    set.AllValidated := by
  have hall : Node.validateAll set.rules (set.rules.map Prod.snd) = .ok () := by
    rw [validate] at hvalid
    split at hvalid
    · split at hvalid
      · exact hvalid
      · cases hvalid
    · exact hvalid
  intro grammar hgrammar
  exact ⟨(Node.validateAll_eq_ok_iff _ _).mp hall grammar hgrammar, hfree grammar hgrammar⟩

theorem RuleSet.contains_start [Engine] {set : RuleSet} (hvalid : set.validate = .ok ())
    {start : String} (hstart : set.start = some start) : set.rules.contains start = true := by
  simp only [validate, hstart] at hvalid
  split at hvalid
  · next hcontains => exact hcontains
  · cases hvalid

theorem RuleSet.AllValidated.matchNode_isDynamic [Engine] [Targets] {set : RuleSet}
    (hset : set.AllValidated) {m : Matcher} (hm : m.rules = set.rules) {node : Node}
    (hnode : node.Validated set.rules) {object : Object} (hobject : object.schema = .record)
    (cursor : Cursor) {failure : Failure}
    (hfailure : (m.matchNode node object cursor).1 = .error failure) :
    failure.isDynamic = true := by
  rw [RuleSet.AllValidated, ← hm] at hset
  rw [← hm] at hnode
  have hend := (evaluates_matchNode m node object cursor).endsDynamic
    (fun _ grammar hfind => hset grammar (NameMap.mem_of_find? hfind)) hobject
    (List.forall_mem_singleton.mpr hnode)
  exact hend.2 failure hfailure

theorem Matcher.matchNode_of_parseObject [Engine] [Targets] {m : Matcher} {grammar : Node}
    {fresh : Object} {text : List Char} {failure : Failure}
    (h : m.parseObject grammar fresh text = .error failure) :
    (m.matchNode grammar fresh (Cursor.start text)).1 = .error failure := by
  rw [parseObject, parseInto] at h
  rcases hmatch : m.matchNode grammar fresh (Cursor.start text) with
    ⟨failed | ⟨yield, rest⟩, object⟩ <;> rw [hmatch] at h
  · cases h
    rfl
  · cases h

theorem RuleSet.AllValidated.parse_isDynamic [Engine] [Targets] {set : RuleSet}
    (hset : set.AllValidated) {name : String} (hname : set.rules.contains name = true)
    (depth : Nat) (text : List Char) {failure : Failure}
    (hfailure : { set with maxDepth := depth }.parse name text = .error failure) :
    failure.isDynamic = true := by
  obtain ⟨grammar, hfind⟩ := Option.isSome_iff_exists.mp hname
  have hgrammar := hset grammar (NameMap.mem_of_find? hfind)
  simp only [RuleSet.parse, hfind] at hfailure
  exact hset.matchNode_isDynamic rfl hgrammar rfl _ (Matcher.matchNode_of_parseObject hfailure)

mutual
theorem NodeDecl.toNode_isTypeFree : (decl : NodeDecl) → decl.toNode.isTypeFree = true
  | .terminal _ | .rule _ => by simp only [toNode, Node.isTypeFree]
  | .sequence parts | .collect parts | .alternation parts => by
    simp only [toNode, Node.isTypeFree, toNodes_allTypeFree parts]
  | .attribute _ part | .ignore part | .optional part | .repetition part _ | .atLeastOnce part
  | .anyNumber part => by
    simp only [toNode, Node.isTypeFree, toNode_isTypeFree part]
  | .list item none => by
    simp [toNode, Node.commaSeparatedList, Node.separatedList, Node.isTypeFree, Node.allTypeFree,
      toNode_isTypeFree item]
  | .list item (some separator) => by
    simp [toNode, Node.separatedList, Node.isTypeFree, Node.allTypeFree, toNode_isTypeFree item,
      toNode_isTypeFree separator]

theorem NodeDecl.toNodes_allTypeFree :
    (decls : List NodeDecl) → Node.allTypeFree (NodeDecl.toNodes decls) = true
  | [] => by simp only [toNodes, Node.allTypeFree]
  | decl :: decls => by
    simp only [toNodes, Node.allTypeFree, toNode_isTypeFree decl, toNodes_allTypeFree decls,
      Bool.and_self]
end

theorem GrammarFile.validate_of_toRuleSet [Engine] {file : GrammarFile} {set : RuleSet}
    (h : file.toRuleSet = .ok set) :
    set.validate = .ok () ∧ ∀ grammar ∈ set.rules.map Prod.snd, grammar.isTypeFree = true := by
  rw [toRuleSet] at h
  split at h
  · cases h
  · dsimp only at h
    split at h
    · next hvalid =>
      cases h
      refine ⟨hvalid, ?_⟩
      simp only [List.map_map, List.mem_map]
      rintro _ ⟨⟨name, decl⟩, _, rfl⟩
      exact decl.toNode_isTypeFree
    · cases h

/-- Validation is sound for matching: a rule set that a grammar file gives, and a grammar without
types that is validated against a validated rule set without types, end in no failure that
validation looks for. -/
theorem validated_failures_isDynamic [Engine] [Targets] :
    (∀ (file : GrammarFile) (set : RuleSet), file.toRuleSet = .ok set →
      ∀ (depth : Nat) (text : List Char) (failure : Failure),
        (∀ name, set.rules.contains name = true →
          { set with maxDepth := depth }.parse name text = .error failure →
            failure.isDynamic = true) ∧
        (∀ start, set.start = some start →
          { set with maxDepth := depth }.parseStart text = .error failure →
            failure.isDynamic = true)) ∧
    ∀ (set : RuleSet), set.validate = .ok () →
      (∀ grammar ∈ set.rules.map Prod.snd, grammar.isTypeFree = true) →
      ∀ (m : Matcher), m.rules = set.rules →
      ∀ (node : Node), node.validate set.rules = .ok () → node.isTypeFree = true →
      ∀ (object : Object), object.schema = .record →
      ∀ (cursor : Cursor) (failure : Failure),
        (m.matchNode node object cursor).1 = .error failure → failure.isDynamic = true := by
  refine ⟨?_, ?_⟩
  · intro file set hset depth text failure
    obtain ⟨hvalid, hfree⟩ := GrammarFile.validate_of_toRuleSet hset
    have hall := RuleSet.allValidated_of_validate hvalid hfree
    refine ⟨?_, ?_⟩
    · intro name hname hfailure
      exact hall.parse_isDynamic hname depth text hfailure
    · intro start hstart hfailure
      rw [RuleSet.parseStart, hstart] at hfailure
      exact hall.parse_isDynamic (RuleSet.contains_start hvalid hstart) depth text hfailure
  · intro set hvalid hfree m hm node hnode hnodeFree object hobject cursor failure hfailure
    exact (RuleSet.allValidated_of_validate hvalid hfree).matchNode_isDynamic hm
      ⟨hnode, hnodeFree⟩ hobject cursor hfailure

/-- A rule that binds the object being built passes validation and is refused by a text that it
matches; without a level of nesting to spare it is not even entered. -/
theorem validated_failures_isDynamic_item :
    let file : GrammarFile :=
      ⟨some "item", 3, [("item", .attribute "x" (.rule "word")),
        ("word", .attribute "content" (.sequence [.terminal "b"]))]⟩
    let set : RuleSet :=
      ⟨[("item", .attribute "x" (.rule "word")),
        ("word", .attribute "content" (.sequence [.terminal "b"]))], some "item", 3⟩
    let shallow : Matcher := { set.matcher with maxDepth := 0 }
    let refused : Failure := .refusedBinding "word" "content" .selfReference
    let object := Object.record "test"
    file.toRuleSet = .ok set ∧ set.parseStart ['b'] = .error refused ∧
      (shallow.matchNode (.optional (.rule "word")) object ⟨0, ['b']⟩).1 =
        .error (.tooDeep 0 0) ∧
      refused.isDynamic = true ∧ (Failure.tooDeep 0 0).isDynamic = true := by
  intro file set shallow refused object
  have hfile : file.toRuleSet = .ok set := by rfl
  have hparse : set.parseStart ['b'] = .error refused := by rfl
  have hmatch : (shallow.matchNode (.optional (.rule "word")) object ⟨0, ['b']⟩).1 =
      .error (.tooDeep 0 0) := by rfl
  refine ⟨hfile, hparse, hmatch, ?_, ?_⟩
  · exact (validated_failures_isDynamic.1 file set hfile 3 ['b'] refused).2 "item" rfl hparse
  · exact validated_failures_isDynamic.2 set (by rfl) (by decide) shallow rfl
      (.optional (.rule "word")) (by rfl) (by rfl) object rfl ⟨0, ['b']⟩ _ hmatch

end TextGrammar
