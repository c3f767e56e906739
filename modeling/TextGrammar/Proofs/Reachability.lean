import TextGrammar.Proofs.Evaluation
/-!
# Reachable references

What a match can come to: the grammars within the grammar at hand, and through references the
grammars that these stand for. References that are closed under what they stand for confine a
match that starts within them.
-/
namespace TextGrammar

namespace Node

mutual
/-- The grammars within a grammar from left to right, itself the first of them; references are not
followed. -/
def subtrees : Node → List Node
  | node@(.terminal _) | node@(.nested _) | node@(.rule _) => [node]
  | node@(.sequence parts) | node@(.collect parts) | node@(.alternation parts) =>
    node :: allSubtrees parts
  | node@(.attribute _ part) | node@(.ignore part) | node@(.optional part)
  | node@(.repetition part _) => node :: subtrees part

def allSubtrees : List Node → List Node
  | [] => []
  | part :: parts => subtrees part ++ allSubtrees parts
end

theorem allSubtrees_eq_flatMap (parts : List Node) :
    allSubtrees parts = parts.flatMap subtrees := by
  induction parts with
  | nil => rfl
  | cons part parts ih => rw [allSubtrees, ih, List.flatMap_cons]

theorem subtrees_eq_cons (node : Node) :
    node.subtrees = node :: node.children.flatMap subtrees := by
  cases node <;> simp [subtrees, children, allSubtrees_eq_flatMap]

theorem mem_subtrees_self (node : Node) : node ∈ node.subtrees := by
  rw [subtrees_eq_cons]
  exact List.mem_cons_self

theorem subtrees_children {node part : Node} (h : part ∈ node.children) :
    part.subtrees ⊆ node.subtrees := by
  intro subtree hsubtree
  rw [subtrees_eq_cons node]
  exact List.mem_cons_of_mem _ (List.mem_flatMap.mpr ⟨part, h, hsubtree⟩)

def reference? : Node → Option Reference
  | .rule name => some (.rule name)
  | .nested type => some (.type type)
  | _ => none

def references (node : Node) : List Reference := node.subtrees.filterMap reference?

def RefersTo (allowed : Reference → Prop) (node : Node) : Prop :=
  ∀ reference ∈ node.references, allowed reference

instance (allowed : Reference → Prop) [DecidablePred allowed] (node : Node) :
    Decidable (node.RefersTo allowed) :=
  inferInstanceAs (Decidable (∀ reference ∈ node.references, allowed reference))

theorem RefersTo.children {allowed : Reference → Prop} {node : Node} (h : node.RefersTo allowed) :
    ∀ part ∈ node.children, part.RefersTo allowed := by
  intro part hpart reference hreference
  obtain ⟨subtree, hsubtree, hsome⟩ := List.mem_filterMap.mp hreference
  exact h reference (List.mem_filterMap.mpr ⟨subtree, subtrees_children hpart hsubtree, hsome⟩)

theorem RefersTo.of_node {allowed : Reference → Prop} {node : Node}
    (h : ∀ grammar ∈ (Task.node node).nodes, grammar.RefersTo allowed) :
    ∀ part ∈ node.children, part.RefersTo allowed :=
  (h node (List.mem_singleton_self _)).children

theorem RefersTo.of_enter {allowed : Reference → Prop} {reference : Reference}
    (h : ∀ node ∈ (Task.enter reference).nodes, node.RefersTo allowed) : allowed reference := by
  cases reference with
  | rule name => exact h (.rule name) (List.mem_singleton_self _) _ (List.mem_singleton_self _)
  | type name => exact h (.nested name) (List.mem_singleton_self _) _ (List.mem_singleton_self _)

end Node

/-- The references that the grammars behind allowed references contain are allowed. -/
def Matcher.Closed (m : Matcher) (allowed : Reference → Prop) : Prop :=
  ∀ reference grammar fresh, allowed reference → m.resolve reference = .ok (grammar, fresh) →
    grammar.RefersTo allowed

/-- The references that a match of a grammar can follow. -/
inductive Matcher.Reachable (m : Matcher) (node : Node) : Reference → Prop
  | occurs {reference} : reference ∈ node.references → Reachable m node reference
  | follows {reference grammar fresh further} :
    Reachable m node reference → m.resolve reference = .ok (grammar, fresh) →
    further ∈ grammar.references → Reachable m node further

theorem Matcher.refersTo_reachable (m : Matcher) (node : Node) :
    node.RefersTo (m.Reachable node) :=
  fun _ hreference => .occurs hreference

theorem Matcher.closed_reachable (m : Matcher) (node : Node) : m.Closed (m.Reachable node) :=
  fun _ _ _ hreachable hresolve _ hfurther => .follows hreachable hresolve hfurther

theorem Matcher.Reachable.of_closed {m : Matcher} {node : Node} {allowed : Reference → Prop}
    (hnode : node.RefersTo allowed) (hclosed : m.Closed allowed) {reference : Reference}
    (h : m.Reachable node reference) : allowed reference := by
  induction h with
  | occurs hoccurs => exact hnode _ hoccurs
  | follows _ hresolve hfurther ih => exact hclosed _ _ _ ih hresolve _ hfurther

theorem Matcher.reachable_eq_rule {m : Matcher} {node grammar : Node} {name : String}
    (hfind : m.rules.find? name = some grammar) (hnode : node.RefersTo (· = .rule name))
    (hgrammar : grammar.RefersTo (· = .rule name)) {reference : Reference}
    (h : m.Reachable node reference) : reference = .rule name := by
  apply h.of_closed hnode
  rintro _ found fresh rfl hresolve
  obtain ⟨hfound, _⟩ := resolve_rule_eq_ok hresolve
  rw [hfind] at hfound
  cases hfound
  exact hgrammar

end TextGrammar
