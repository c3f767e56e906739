import TextGrammar.Proofs.Combinators
import TextGrammar.Proofs.Runs
/-!
# Words in parentheses

The type of words in any number of parentheses refers to itself once for each pair. A word in as
many pairs as the limit on nesting allows is read, and one pair more runs into the limit.
-/
namespace TextGrammar

/-- A word in `count` pairs of parentheses. -/
def parenthesized (word : List Char) (count : Nat) : List Char :=
  List.replicate count '(' ++ word ++ List.replicate count ')'

theorem parenthesized_succ (word : List Char) (count : Nat) :
    parenthesized word (count + 1) = '(' :: parenthesized word count ++ [')'] := by
  simp [parenthesized, List.replicate_succ, ← List.replicate_succ']

def nestOf (word : List Char) : (count : Nat) → Object
  | 0 => ⟨"Nest", ObjectType.nestSchema, [("leaf", .text (String.ofList word))]⟩
  | count + 1 => ⟨"Nest", ObjectType.nestSchema, [("inner", (nestOf word count).toValue)]⟩

mutual
/-- How many objects of the kind an object has inside each other. -/
def Value.nesting : Value → Nat
  | .object _ _ attributes => innerNesting attributes
  | .text _ | .sequence _ => 0

def innerNesting : List (String × Value) → Nat
  | [] => 0
  | (name, value) :: attributes =>
    if name = "inner" then value.nesting + 1 else innerNesting attributes
end

mutual
def Value.innermost? : Value → Option String
  | .object _ _ attributes =>
    innermostIn? ((NameMap.find? attributes "leaf").bind Value.text?) attributes
  | .text _ | .sequence _ => none

def innermostIn? (leaf : Option String) : List (String × Value) → Option String
  | [] => leaf
  | (name, value) :: attributes =>
    if name = "inner" then value.innermost? else innermostIn? leaf attributes
end

theorem nesting_nestOf (word : List Char) (count : Nat) :
    (nestOf word count).toValue.nesting = count := by
  induction count with
  | zero => simp [nestOf, Object.toValue, Value.nesting, innerNesting]
  | succ count ih =>
    rw [nestOf, Object.toValue, Value.nesting, innerNesting, if_pos rfl, ih]

theorem innermost?_nestOf (word : List Char) (count : Nat) :
    (nestOf word count).toValue.innermost? = some (String.ofList word) := by
  induction count with
  | zero =>
    simp [nestOf, Object.toValue, Value.innermost?, innermostIn?, NameMap.find?_cons, Value.text?]
  | succ count ih =>
    rw [nestOf, Object.toValue, Value.innermost?, innermostIn?, if_pos rfl, ih]

/-! ## One pair of parentheses -/

section

variable (enter : Reference → Cursor → Outcome Value) (offset : Nat) {word rest : List Char}

abbrev freshNest : Object := ObjectType.nest.instantiate "Nest"

theorem run_nest_word (hne : word ≠ []) (hword : ∀ c ∈ word, Unicode.isWord c.toNat = true)
    (hrest : ∀ c ∈ rest.head?, Unicode.isWord c.toNat = false) :
    ObjectType.nest.grammar.run enter freshNest ⟨offset, word ++ rest⟩ =
      (.ok (.target, ⟨offset + byteLength word, rest⟩), nestOf word 0) := by
  have hopen : matchTerminal "\\(" ⟨offset, word ++ rest⟩ = .error (.mismatch "\\(" offset) := by
    apply matchTerminal_oneOf_mismatch compile_open
    have hfirst : ∀ c ∈ (word ++ rest).head?, c ≠ '(' := ne_of_head?_word hne hword (by decide)
    simpa using hfirst
  have hleaf : (Node.attribute "leaf" (.terminal "\\w+")).run enter freshNest
      ⟨offset, word ++ rest⟩ =
      (.ok (.target, ⟨offset + byteLength word, rest⟩), nestOf word 0) := by
    apply Node.run_attribute_of_bind
    · rw [Node.run, matchTerminal_manyOf compile_word offset hne hword hrest]
    · rfl
  rw [ObjectType.nest, ObjectType.ofSchema, Node.run_alternation, Node.tryAll_cons,
    Node.run_sequence, Node.runAll_cons,
    Node.run_ignore, Node.run, hopen, andThen_error, andThen_error, andThen_error,
    recover_of_isRecoverable rfl, Node.tryAll_cons, hleaf, recover]

private theorem run_ignore_char {pattern : String} {c : Char}
    (hpattern : Terminal.compile pattern = some (.oneOf (.single c))) (hsize : c.utf8Size = 1)
    (object : Object) (text : List Char) :
    (Node.ignore (.terminal pattern)).run enter object ⟨offset, c :: text⟩ =
      (.ok (.value .empty, ⟨offset + 1, text⟩), object) := by
  have hc : (CharSet.single c).has c = true := by simp
  have hmatch := matchTerminal_oneOf hpattern offset hc text
  rw [Node.run_ignore, Node.run, hmatch, hsize, andThen_ok]

theorem run_nest_inner {text : List Char} {count next : Nat}
    (henter : enter (.type "Nest") ⟨offset + 1, text⟩ =
      .ok ((nestOf word count).toValue, ⟨next, ')' :: rest⟩)) :
    ObjectType.nest.grammar.run enter freshNest ⟨offset, '(' :: text⟩ =
      (.ok (.target, ⟨next + 1, rest⟩), nestOf word (count + 1)) := by
  have hopen := run_ignore_char enter offset compile_open rfl freshNest text
  have hinner : (Node.attribute "inner" (.nested "Nest")).run enter freshNest ⟨offset + 1, text⟩ =
      (.ok (.target, ⟨next, ')' :: rest⟩), nestOf word (count + 1)) := by
    apply Node.run_attribute_of_bind
    · rw [Node.run, henter, yieldObject]
    · cases count <;> rfl
  have hclose := run_ignore_char enter next compile_close rfl (nestOf word (count + 1)) rest
  rw [ObjectType.nest, ObjectType.ofSchema, Node.run_alternation, Node.tryAll_cons,
    Node.run_sequence, Node.runAll_cons,
    hopen, andThen_ok, Node.runAll_cons, hinner, andThen_ok, Node.runAll_cons, hclose, andThen_ok,
    Node.runAll, andThen_ok, recover]

theorem run_nest_fatal {text : List Char} {failure : Failure}
    (henter : enter (.type "Nest") ⟨offset + 1, text⟩ = .error failure)
    (hfatal : failure.isRecoverable = false) :
    ObjectType.nest.grammar.run enter freshNest ⟨offset, '(' :: text⟩ =
      (.error failure, freshNest) := by
  have hopen := run_ignore_char enter offset compile_open rfl freshNest text
  have hinner : (Node.attribute "inner" (.nested "Nest")).run enter freshNest ⟨offset + 1, text⟩ =
      (.error failure, freshNest) := by
    rw [Node.run_attribute, Node.run, henter, yieldObject, andThen_error]
  rw [ObjectType.nest, ObjectType.ofSchema, Node.run_alternation, Node.tryAll_cons,
    Node.run_sequence, Node.runAll_cons,
    hopen, andThen_ok, Node.runAll_cons, hinner, andThen_error, andThen_error,
    recover_of_isFatal hfatal]

end

/-! ## Any number of pairs -/

section

variable {m : Matcher} {word : List Char}

private theorem resolve_nest (htypes : m.types = ObjectType.standard) :
    m.resolve (.type "Nest") = .ok (ObjectType.nest.grammar, freshNest) := by
  rw [Matcher.resolve, htypes]
  rfl

theorem run_nest_of_le (htypes : m.types = ObjectType.standard) (hne : word ≠ [])
    (hword : ∀ c ∈ word, Unicode.isWord c.toNat = true) {count depth : Nat} (hle : count ≤ depth)
    (offset : Nat) {rest : List Char} (hrest : ∀ c ∈ rest.head?, Unicode.isWord c.toNat = false) :
    ObjectType.nest.grammar.run (m.enter depth) freshNest
        ⟨offset, parenthesized word count ++ rest⟩ =
      (.ok (.target, ⟨offset + byteLength (parenthesized word count), rest⟩),
        nestOf word count) := by
  induction count generalizing depth offset rest with
  | zero =>
    have htext : parenthesized word 0 = word := by simp [parenthesized]
    rw [htext]
    exact run_nest_word _ offset hne hword hrest
  | succ count ih =>
    -- The pair's own level is the one that the inner object cannot use.
    obtain ⟨depth, rfl⟩ : ∃ spare, depth = spare + 1 := ⟨depth - 1, by omega⟩
    have hclose : ∀ c ∈ (')' :: rest).head?, Unicode.isWord c.toNat = false := by
      intro c hc
      cases hc
      decide
    have hinner := ih (show count ≤ depth by omega) (offset + 1) hclose
    have henter : m.enter (depth + 1) (.type "Nest")
        ⟨offset + 1, parenthesized word count ++ ')' :: rest⟩ =
        .ok ((nestOf word count).toValue,
          ⟨offset + 1 + byteLength (parenthesized word count), ')' :: rest⟩) := by
      simp only [Matcher.enter, resolve_nest htypes, hinner]
    have hpair := run_nest_inner (m.enter (depth + 1)) offset henter
    have hsize : '('.utf8Size = 1 ∧ ')'.utf8Size = 1 := ⟨rfl, rfl⟩
    have hbytes : offset + byteLength (parenthesized word (count + 1)) =
        offset + 1 + byteLength (parenthesized word count) + 1 := by
      simp only [parenthesized_succ, List.cons_append, byteLength_cons, byteLength_append,
        byteLength_nil, hsize]
      omega
    rw [hbytes]
    simpa [parenthesized_succ] using hpair

/-- With a pair too many, the one that has no level left is read and no more. -/
theorem run_nest_of_lt (htypes : m.types = ObjectType.standard) (word : List Char)
    {count depth : Nat} (hlt : depth < count) (offset : Nat) (rest : List Char) :
    ObjectType.nest.grammar.run (m.enter depth) freshNest
        ⟨offset, parenthesized word count ++ rest⟩ =
      (.error (.tooDeep m.maxDepth (offset + depth + 1)), freshNest) := by
  induction count generalizing depth offset rest with
  | zero => omega
  | succ count ih =>
    have htext : parenthesized word (count + 1) ++ rest =
        '(' :: (parenthesized word count ++ ')' :: rest) := by
      simp [parenthesized_succ]
    rw [htext]
    apply run_nest_fatal
    · cases depth with
      | zero => simp only [Matcher.enter, resolve_nest htypes, Nat.add_zero]
      | succ depth =>
        have hinner := ih (show depth < count by omega) (offset + 1) (')' :: rest)
        simp only [Matcher.enter, resolve_nest htypes, hinner, Except.error.injEq,
          Failure.tooDeep.injEq, true_and]
        omega
    · rfl

end

theorem isWord_of_isAlphanum {c : Char} (hc : c.isAlphanum = true) :
    Unicode.isWord c.toNat = true := by
  have hascii : ∀ n < 128, (48 ≤ n ∧ n ≤ 57) ∨ (65 ≤ n ∧ n ≤ 90) ∨ (97 ≤ n ∧ n ≤ 122) →
      Unicode.isWord n = true := by
    decide +kernel
  have hrange : (48 ≤ c.toNat ∧ c.toNat ≤ 57) ∨ (65 ≤ c.toNat ∧ c.toNat ≤ 90) ∨
      (97 ≤ c.toNat ∧ c.toNat ≤ 122) := by
    have hcases : ((decide (65 ≤ c.val ∧ c.val ≤ 90) || (97 ≤ c.val && c.val ≤ 122)) ||
        (48 ≤ c.val && c.val ≤ 57)) = true := hc
    simp only [Bool.or_eq_true, Bool.and_eq_true, decide_eq_true_eq, UInt32.le_iff_toNat_le,
      UInt32.reduceToNat, Char.toNat_val] at hcases
    omega
  exact hascii c.toNat (by omega) hrange

/-- The limit on nesting is exact. A word of ASCII letters and digits in as many pairs of
parentheses as the limit allows is read to its end, and the object built has as many objects inside
each other and the word in the innermost one. With more pairs the limit is reported right after the
first parenthesis that goes beyond it. -/
theorem nesting_limit_is_exact (rules : NameMap Node) (limit count : Nat) (word : List Char)
    (hne : word ≠ []) (hword : ∀ c ∈ word, c.isAlphanum = true) :
    let text := parenthesized word count
    let parsed := (Matcher.mk rules ObjectType.standard limit).parse "Nest" text
    (count ≤ limit →
      parsed = .ok ⟨nestOf word count, ⟨byteLength text, []⟩⟩ ∧
        (nestOf word count).toValue.nesting = count ∧
        (nestOf word count).toValue.innermost? = some (String.ofList word)) ∧
      (limit < count → parsed = .error (.tooDeep limit (limit + 1))) := by
  intro text parsed
  let m : Matcher := ⟨rules, ObjectType.standard, limit⟩
  have hwords : ∀ c ∈ word, Unicode.isWord c.toNat = true := by
    intro c hc
    exact isWord_of_isAlphanum (hword c hc)
  have htext : Cursor.start text = ⟨0, parenthesized word count ++ []⟩ := by
    simp [Cursor.start, text]
  constructor
  · intro hle
    have hend : ∀ c ∈ ([] : List Char).head?, Unicode.isWord c.toNat = false := by simp
    have hrun := run_nest_of_le (m := m) rfl hne hwords hle 0 hend
    refine ⟨?_, nesting_nestOf word count, innermost?_nestOf word count⟩
    rw [← htext, Nat.zero_add] at hrun
    exact Matcher.parseObject_of_ok hrun
  · intro hlt
    have hrun := run_nest_of_lt (m := m) rfl word hlt 0 []
    rw [← htext, Nat.zero_add] at hrun
    exact Matcher.parseObject_of_error hrun

theorem nesting_limit_is_exact_two :
    let m : Matcher := { maxDepth := 2 }
    m.parse "Nest" "((w1))".toList =
        .ok ⟨nestOf ['w', '1'] 2, ⟨byteLength "((w1))".toList, []⟩⟩ ∧
      (nestOf ['w', '1'] 2).toValue.innermost? = some (String.ofList ['w', '1']) ∧
      m.parse "Nest" "(((w1)))".toList = .error (.tooDeep 2 3) := by
  intro m
  have hword : ∀ c ∈ ['w', '1'], c.isAlphanum = true := List.all_eq_true.mp (by decide)
  have hwithin := nesting_limit_is_exact [] 2 2 ['w', '1'] (by simp) hword
  have hbeyond := nesting_limit_is_exact [] 2 3 ['w', '1'] (by simp) hword
  obtain ⟨hparsed, hnesting, hleaf⟩ := hwithin.1 (by omega)
  exact ⟨hparsed, hleaf, hbeyond.2 (by omega)⟩

end TextGrammar
