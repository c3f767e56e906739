import TextGrammar.Proofs.NameOrder
import TextGrammar.Proofs.ValidationSoundness
import TextGrammar.Terminal
/-!
# The leftmost defect

Validation goes through the leaves of a grammar from left to right and reports the first one that
something is wrong with. In a grammar file the start rule comes before all leaves, and the rules
come in the order of their names.
-/
namespace TextGrammar

/-- Where a grammar ends: a terminal or a reference. -/
inductive Leaf where
  | terminal (pattern : String)
  | nested (type : String)
  | rule (name : String)
deriving DecidableEq, Repr

namespace Leaf

def toNode : Leaf → Node
  | .terminal pattern => .terminal pattern
  | .nested type => .nested type
  | .rule name => .rule name

variable [Engine]

inductive Defective (isDefined : String → Bool) : Leaf → Failure → Prop
  | pattern {pattern} : Engine.compile pattern = none →
    Defective isDefined (.terminal pattern) (.invalidPattern pattern)
  | rule {name} : isDefined name = false →
    Defective isDefined (.rule name) (.undefinedRule name)

def IsSound (isDefined : String → Bool) (leaf : Leaf) : Prop :=
  ∀ failure, ¬ leaf.Defective isDefined failure

/-- The failure is that of the first leaf that is not sound. -/
def FirstDefect (isDefined : String → Bool) (leaves : List Leaf) (failure : Failure) : Prop :=
  ∃ before leaf after, leaves = before ++ leaf :: after ∧ leaf.Defective isDefined failure ∧
    ∀ earlier ∈ before, earlier.IsSound isDefined

theorem isSound_terminal {isDefined : String → Bool} {pattern : String} :
    IsSound isDefined (.terminal pattern) ↔ (Engine.compile pattern).isSome = true := by
  constructor
  · intro h
    cases hcompile : Engine.compile pattern with
    | none => exact absurd (.pattern hcompile) (h _)
    | some program => rfl
  · intro hsome failure hdefect
    cases hdefect with
    | pattern hnone => simp [hnone] at hsome

theorem isSound_rule {isDefined : String → Bool} {name : String} :
    IsSound isDefined (.rule name) ↔ isDefined name = true := by
  constructor
  · intro h
    cases hname : isDefined name with
    | false => exact absurd (.rule hname) (h _)
    | true => rfl
  · intro hdefined failure hdefect
    cases hdefect with
    | rule hundefined => simp [hundefined] at hdefined

theorem isSound_nested (isDefined : String → Bool) (type : String) :
    IsSound isDefined (.nested type) := nofun

variable {rules : NameMap Node} {leaf : Leaf}

theorem validate_eq_ok_iff : leaf.toNode.validate rules = .ok () ↔ leaf.IsSound rules.contains := by
  cases leaf with
  | terminal pattern =>
    rw [isSound_terminal, toNode, Node.validate]
    split <;> simp_all
  | nested type => simp [toNode, Node.validate, isSound_nested]
  | rule name =>
    rw [isSound_rule, toNode, Node.validate]
    split <;> simp_all

theorem validate_eq_error_iff {failure : Failure} :
    leaf.toNode.validate rules = .error failure ↔ leaf.Defective rules.contains failure := by
  constructor
  · intro h
    cases leaf with
    | terminal pattern =>
      rw [toNode, Node.validate] at h
      split at h
      · cases h
      · next hinvalid =>
        cases h
        exact .pattern (by simpa using hinvalid)
    | nested type =>
      rw [toNode, Node.validate] at h
      cases h
    | rule name =>
      rw [toNode, Node.validate] at h
      split at h
      · cases h
      · next hundefined =>
        cases h
        exact .rule (by simpa using hundefined)
  · intro h
    cases h with
    | pattern hnone => simp [toNode, Node.validate, hnone]
    | rule hundefined => simp [toNode, Node.validate, hundefined]

end Leaf

namespace Node

mutual
def leaves : Node → List Leaf
  | .terminal pattern => [.terminal pattern]
  | .nested type => [.nested type]
  | .rule name => [.rule name]
  | .sequence parts | .collect parts | .alternation parts => allLeaves parts
  | .attribute _ part | .ignore part | .optional part | .repetition part _ => part.leaves

def allLeaves : List Node → List Leaf
  | [] => []
  | part :: parts => part.leaves ++ allLeaves parts
end

variable [Engine] (rules : NameMap Node)

theorem validateAll_append (parts further : List Node) :
    validateAll rules (parts ++ further) =
      match validateAll rules parts with
      | .ok () => validateAll rules further
      | .error failure => .error failure := by
  induction parts with
  | nil => simp [validateAll]
  | cons part parts ih =>
    rw [List.cons_append, validateAll, validateAll, ih]
    cases part.validate rules <;> rfl

theorem validateAll_singleton (node : Node) : validateAll rules [node] = node.validate rules := by
  rw [validateAll, validateAll]
  cases node.validate rules <;> rfl

mutual
theorem validate_eq_leaves :
    (node : Node) → node.validate rules = validateAll rules (node.leaves.map Leaf.toNode)
  | .terminal _ | .nested _ | .rule _ => by
    simp only [leaves, List.map_cons, List.map_nil, Leaf.toNode, validateAll_singleton]
  | .sequence parts | .collect parts | .alternation parts => by
    rw [validate, leaves]
    exact validateAll_eq_leaves parts
  | .attribute _ part | .ignore part | .optional part | .repetition part _ => by
    rw [validate, leaves]
    exact validate_eq_leaves part

theorem validateAll_eq_leaves : (parts : List Node) →
    validateAll rules parts = validateAll rules ((allLeaves parts).map Leaf.toNode)
  | [] => by simp [allLeaves]
  | part :: parts => by
    have happend := validateAll_append rules (part.leaves.map Leaf.toNode)
      ((allLeaves parts).map Leaf.toNode)
    rw [← validate_eq_leaves part, ← validateAll_eq_leaves parts, ← List.map_append] at happend
    rw [allLeaves]
    exact happend.symm
end

theorem validateAll_map_eq_error_iff {α : Type} (toNode : α → Node) {items : List α}
    {failure : Failure} :
    validateAll rules (items.map toNode) = .error failure ↔
      ∃ before item after, items = before ++ item :: after ∧
        (toNode item).validate rules = .error failure ∧
        ∀ earlier ∈ before, (toNode earlier).validate rules = .ok () := by
  induction items with
  | nil => simp [validateAll]
  | cons first items ih =>
    rw [List.map_cons, validateAll]
    constructor
    · intro h
      cases hfirst : (toNode first).validate rules with
      | error found =>
        rw [hfirst] at h
        cases h
        exact ⟨[], first, items, rfl, hfirst, by simp⟩
      | ok =>
        rw [hfirst] at h
        obtain ⟨before, item, after, rfl, hitem, hbefore⟩ := ih.mp h
        exact ⟨first :: before, item, after, rfl, hitem, List.forall_mem_cons.mpr ⟨hfirst, hbefore⟩⟩
    · rintro ⟨before, item, after, hitems, hitem, hbefore⟩
      cases before with
      | nil =>
        cases hitems
        rw [hitem]
      | cons earlier before =>
        cases hitems
        obtain ⟨hfirst, hbefore⟩ := List.forall_mem_cons.mp hbefore
        rw [hfirst]
        exact ih.mpr ⟨before, item, after, rfl, hitem, hbefore⟩

def IsSound (isDefined : String → Bool) (node : Node) : Prop :=
  ∀ leaf ∈ node.leaves, leaf.IsSound isDefined

variable {rules}

theorem validate_eq_ok_iff_isSound {node : Node} :
    node.validate rules = .ok () ↔ node.IsSound rules.contains := by
  rw [validate_eq_leaves, validateAll_eq_ok_iff, List.forall_mem_map, IsSound]
  simp only [Leaf.validate_eq_ok_iff]

theorem validate_eq_error_iff_firstDefect {node : Node} {failure : Failure} :
    node.validate rules = .error failure ↔ Leaf.FirstDefect rules.contains node.leaves failure := by
  rw [validate_eq_leaves, validateAll_map_eq_error_iff]
  simp only [Leaf.validate_eq_error_iff, Leaf.validate_eq_ok_iff, Leaf.FirstDefect]

theorem isSound_iff {isDefined : String → Bool} {node : Node} :
    node.IsSound isDefined ↔
      (∀ pattern, .terminal pattern ∈ node.leaves → (Engine.compile pattern).isSome = true) ∧
      ∀ name, .rule name ∈ node.leaves → isDefined name = true := by
  constructor
  · intro h
    constructor
    · intro pattern hpattern
      exact Leaf.isSound_terminal.mp (h _ hpattern)
    · intro name hname
      exact Leaf.isSound_rule.mp (h _ hname)
  · intro ⟨hpatterns, hnames⟩ leaf hleaf
    cases leaf with
    | terminal pattern => exact Leaf.isSound_terminal.mpr (hpatterns pattern hleaf)
    | nested type => exact Leaf.isSound_nested isDefined type
    | rule name => exact Leaf.isSound_rule.mpr (hnames name hleaf)

end Node

/-! ## Grammar files -/

theorem NameMap.IsSorted.mem_before_iff {α : Type} {before after : NameMap α}
    {entry other : String × α} (h : IsSorted (before ++ entry :: after)) :
    other ∈ before ↔ other ∈ before ++ entry :: after ∧ other.1 < entry.1 := by
  obtain ⟨_, hafter, hbefore⟩ := List.pairwise_append.mp h
  constructor
  · intro hother
    exact ⟨List.mem_append_left _ hother, hbefore other hother entry List.mem_cons_self⟩
  · intro ⟨hother, hlt⟩
    rcases List.mem_append.mp hother with hother | hother
    · exact hother
    · rcases List.mem_cons.mp hother with rfl | hother
      · exact absurd hlt (String.lt_irrefl _)
      · have hgt := (List.pairwise_cons.mp hafter).1 other hother
        exact absurd hlt (String.lt_asymm hgt)

namespace GrammarFile

variable {file : GrammarFile}

/-- The rule set of a file before it is checked. -/
def declared (file : GrammarFile) : RuleSet where
  rules := file.rules.map fun (name, decl) => (name, decl.toNode)
  start := file.start
  maxDepth := file.maxDepth

theorem contains_declared (file : GrammarFile) (name : String) :
    file.declared.rules.contains name = file.rules.contains name := by
  simp only [declared, NameMap.contains]
  induction file.rules with
  | nil => rfl
  | cons entry rules ih =>
    simp only [List.map_cons, NameMap.find?_cons]
    split
    · rfl
    · exact ih

variable [Engine]

theorem toRuleSet_eq_noRules_iff : file.toRuleSet = .error .noRules ↔ file.rules = [] := by
  rw [toRuleSet]
  split
  · next hempty => simpa using hempty
  · next hrules =>
    dsimp only
    split <;> simp_all

theorem toRuleSet_eq (hrules : file.rules ≠ []) :
    file.toRuleSet =
      match file.declared.validate with
      | .ok () => .ok file.declared
      | .error failure => .error (.invalid failure) := by
  have hempty : file.rules.isEmpty = false := by simpa using hrules
  rw [toRuleSet, hempty]
  rfl

def StartIsDeclared (file : GrammarFile) : Prop :=
  ∀ start, file.start = some start → file.rules.contains start = true

theorem validate_declared (hstart : file.StartIsDeclared) :
    file.declared.validate =
      Node.validateAll file.declared.rules (file.rules.map fun entry => entry.2.toNode) := by
  have hgrammars :
      file.declared.rules.map Prod.snd = file.rules.map fun entry => entry.2.toNode := by
    simp [declared]
  rw [RuleSet.validate, hgrammars]
  cases hname : file.start with
  | none => simp only [show file.declared.start = none from hname]
  | some start =>
    have hcontains : file.declared.rules.contains start = true := by
      rw [contains_declared, hstart start hname]
    simp only [show file.declared.start = some start from hname, hcontains, ↓reduceIte]

theorem toRuleSet_eq_ok_iff (hrules : file.rules ≠ []) (hstart : file.StartIsDeclared)
    {set : RuleSet} :
    file.toRuleSet = .ok set ↔
      (∀ entry ∈ file.rules, entry.2.toNode.IsSound file.rules.contains) ∧ set = file.declared := by
  have hsound : file.declared.validate = .ok () ↔
      ∀ entry ∈ file.rules, entry.2.toNode.IsSound file.rules.contains := by
    rw [validate_declared hstart, Node.validateAll_eq_ok_iff, List.forall_mem_map]
    simp only [Node.validate_eq_ok_iff_isSound, funext file.contains_declared]
  rw [← hsound, toRuleSet_eq hrules]
  cases file.declared.validate <;> simp [eq_comm]

theorem toRuleSet_eq_invalid_iff (hsorted : file.rules.IsSorted) (hrules : file.rules ≠ [])
    (hstart : file.StartIsDeclared) {failure : Failure} :
    file.toRuleSet = .error (.invalid failure) ↔
      ∃ entry ∈ file.rules,
        Leaf.FirstDefect file.rules.contains entry.2.toNode.leaves failure ∧
        ∀ earlier ∈ file.rules, earlier.1 < entry.1 →
          earlier.2.toNode.IsSound file.rules.contains := by
  have hinvalid : file.toRuleSet = .error (.invalid failure) ↔
      file.declared.validate = .error failure := by
    rw [toRuleSet_eq hrules]
    cases file.declared.validate <;> simp
  rw [hinvalid, validate_declared hstart, Node.validateAll_map_eq_error_iff]
  simp only [Node.validate_eq_ok_iff_isSound, Node.validate_eq_error_iff_firstDefect,
    funext file.contains_declared]
  constructor
  · intro ⟨before, entry, after, hsplit, hdefect, hbefore⟩
    refine ⟨entry, by simp [hsplit], hdefect, ?_⟩
    intro earlier hearlier hlt
    rw [hsplit] at hsorted hearlier
    exact hbefore earlier (hsorted.mem_before_iff.mpr ⟨hearlier, hlt⟩)
  · intro ⟨entry, hentry, hdefect, hsound⟩
    obtain ⟨before, after, hsplit⟩ := List.append_of_mem hentry
    refine ⟨before, entry, after, hsplit, hdefect, ?_⟩
    intro earlier hearlier
    rw [hsplit] at hsorted
    obtain ⟨hmem, hlt⟩ := hsorted.mem_before_iff.mp hearlier
    exact hsound earlier (hsplit ▸ hmem) hlt

theorem toRuleSet_of_undeclared_start (hrules : file.rules ≠ []) {start : String}
    (hname : file.start = some start) (hundeclared : file.rules.contains start = false) :
    file.toRuleSet = .error (.invalid (.undefinedStart start)) := by
  have hcontains : file.declared.rules.contains start = false := by
    rw [contains_declared, hundeclared]
  rw [toRuleSet_eq hrules, RuleSet.validate]
  simp only [show file.declared.start = some start from hname, hcontains, Bool.false_eq_true,
    ↓reduceIte]

end GrammarFile

/-- Validation finds exactly the leftmost defect. A grammar passes, with a rule set or without one,
if its patterns are well formed and its rules defined, and otherwise the first leaf of which this
does not hold is reported. A grammar file without rules is refused as such. Otherwise a start rule
that is not declared comes before all defects of the rules, then the leftmost defect of the first
rule in name order that has one, and a file without defects gives the rules that it declares. -/
theorem validation_finds_leftmost_defect [Engine] :
    (∀ (set : Option RuleSet) (node : Node),
      let rules : NameMap Node := set.elim [] RuleSet.rules
      (node.validate rules = .ok () ↔
        (∀ pattern, .terminal pattern ∈ node.leaves → (Engine.compile pattern).isSome = true) ∧
        ∀ name, .rule name ∈ node.leaves →
          ∃ given, set = some given ∧ given.rules.contains name = true) ∧
      ∀ failure, node.validate rules = .error failure ↔
        Leaf.FirstDefect rules.contains node.leaves failure) ∧
    ∀ file : GrammarFile, file.rules.IsSorted →
      (file.toRuleSet = .error .noRules ↔ file.rules = []) ∧
      (file.rules ≠ [] → ∀ start, file.start = some start → file.rules.contains start = false →
        file.toRuleSet = .error (.invalid (.undefinedStart start))) ∧
      (file.rules ≠ [] → file.StartIsDeclared →
        (∀ failure, file.toRuleSet = .error (.invalid failure) ↔
          ∃ entry ∈ file.rules,
            Leaf.FirstDefect file.rules.contains entry.2.toNode.leaves failure ∧
            ∀ earlier ∈ file.rules, earlier.1 < entry.1 →
              earlier.2.toNode.IsSound file.rules.contains) ∧
        ∀ set, file.toRuleSet = .ok set ↔
          (∀ entry ∈ file.rules, entry.2.toNode.IsSound file.rules.contains) ∧
            set.rules = file.rules.map (fun entry => (entry.1, entry.2.toNode)) ∧
            set.start = file.start ∧ set.maxDepth = file.maxDepth) := by
  constructor
  · intro set node rules
    refine ⟨?_, fun failure => Node.validate_eq_error_iff_firstDefect⟩
    rw [Node.validate_eq_ok_iff_isSound, Node.isSound_iff]
    cases set with
    | none => simp [rules, NameMap.contains]
    | some given => simp [rules]
  · intro file hsorted
    refine ⟨GrammarFile.toRuleSet_eq_noRules_iff, ?_, ?_⟩
    · intro hrules start
      exact GrammarFile.toRuleSet_of_undeclared_start hrules
    · intro hrules hstart
      refine ⟨fun failure => GrammarFile.toRuleSet_eq_invalid_iff hsorted hrules hstart, ?_⟩
      intro set
      rw [GrammarFile.toRuleSet_eq_ok_iff hrules hstart]
      cases set
      simp [GrammarFile.declared]

/-- The item of the list is sound, its separator comes next, and the pattern of the rule with the
larger name would come after both. A start rule that is not declared comes before them all. -/
theorem validation_finds_leftmost_defect_separator :
    let list : NodeDecl := .list (.rule "word") (some (.rule "none"))
    let file : GrammarFile := ⟨some "list", 3, [("list", list), ("word", .terminal "(")]⟩
    let lost : GrammarFile := { file with start := some "none" }
    file.rules.IsSorted ∧ file.rules ≠ [] ∧ file.StartIsDeclared ∧
      Leaf.FirstDefect file.rules.contains list.toNode.leaves (.undefinedRule "none") ∧
      file.toRuleSet = .error (.invalid (.undefinedRule "none")) ∧
      lost.toRuleSet = .error (.invalid (.undefinedStart "none")) := by
  intro list file lost
  have hsorted : file.rules.IsSorted := by
    simp only [file, NameMap.IsSorted, List.pairwise_cons]
    decide
  have hstart : file.StartIsDeclared := by
    intro start hname
    cases hname
    decide
  have hdefect :
      Leaf.FirstDefect file.rules.contains list.toNode.leaves (.undefinedRule "none") := by
    refine ⟨[.rule "word"], .rule "none", [.rule "word"], rfl, .rule (by decide), ?_⟩
    intro earlier hearlier
    rw [List.mem_singleton.mp hearlier]
    exact Leaf.isSound_rule.mpr (by decide)
  have hrules : file.rules ≠ [] := by simp [file]
  obtain ⟨_, _, hdeclared⟩ := validation_finds_leftmost_defect.2 file hsorted
  obtain ⟨_, hlost, _⟩ := validation_finds_leftmost_defect.2 lost hsorted
  refine ⟨hsorted, hrules, hstart, hdefect, ?_, hlost hrules "none" rfl (by decide)⟩
  apply ((hdeclared hrules hstart).1 _).mpr
  refine ⟨("list", list), List.mem_cons_self, hdefect, ?_⟩
  intro earlier hearlier hlt
  have hlist : ¬ earlier.1 < "list" := by
    rcases List.mem_cons.mp hearlier with rfl | hword
    · decide
    · rw [List.mem_singleton.mp hword]
      decide
  exact absurd hlt hlist

end TextGrammar
