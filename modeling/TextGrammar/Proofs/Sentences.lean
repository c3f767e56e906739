import TextGrammar.Proofs.Combinators
import TextGrammar.Proofs.Iteration
import TextGrammar.Proofs.Referencing
import TextGrammar.Proofs.Runs
/-!
# Sentences

Words with blanks between them, as a type and as rules. Both read a text of words up to the first
character that is neither a blank nor part of a word, and build the words in their order.
-/
namespace TextGrammar

/-! ## Rounds that leave the object alone -/

/-- Rounds of the part from the first cursor to the second contribute the values. None of them
touches the object or yields it, and after them there is no further round. -/
inductive Collects [Engine] [Targets] (m : Matcher) (depth : Nat) (part : Node) (object : Object) :
    Cursor → List Value → Cursor → Prop
  | atEnd {cursor} : cursor.isAtEnd = true → Collects m depth part object cursor [] cursor
  | stop {cursor failure} : cursor.isAtEnd = false → failure.isRecoverable = true →
    part.run (m.enter depth) object cursor = (.error failure, object) →
    Collects m depth part object cursor [] cursor
  | round {cursor next last value values} : cursor.isAtEnd = false →
    part.run (m.enter depth) object cursor = (.ok (.value value, next), object) →
    next.offset ≠ cursor.offset → Collects m depth part object next values last →
    Collects m depth part object cursor (value.flatten ++ values) last

namespace Collects

variable [Engine] [Targets]

variable {m : Matcher} {depth : Nat} {part : Node} {object : Object} {cursor last : Cursor}
  {values : List Value}

theorem iterate (h : Collects m depth part object cursor values last) :
    ∃ rounds, part.iterate m depth object cursor = (.ok (rounds, last), object) ∧
      contributed rounds = values ∧ (rounds.any fun round => round.yield.isTarget) = false := by
  induction h with
  | atEnd hend => exact ⟨[], Node.iterate_of_isAtEnd hend, rfl, rfl⟩
  | stop hend hrecover hrun => exact ⟨[], Node.iterate_of_stop hend hrun hrecover, rfl, rfl⟩
  | @round cursor next last value values hend hrun hmoved _ ih =>
    obtain ⟨rounds, hiterate, hvalues, htarget⟩ := ih
    refine ⟨⟨cursor, .value value⟩ :: rounds, ?_, ?_, ?_⟩
    · rw [Node.iterate_of_round hend hrun hmoved, hiterate]
    · rw [contributed_cons, hvalues, Yield.flatten]
    · rw [List.any_cons, htarget, Yield.isTarget, Bool.or_false]

theorem run_repetition (h : Collects m depth part object cursor values last) :
    (Node.repetition part false).run (m.enter depth) object cursor =
      if values.isEmpty then (.error (.tooFew cursor.offset), object)
      else (.ok (.value (.sequence values), last), object) := by
  obtain ⟨rounds, hiterate, hvalues, htarget⟩ := h.iterate
  rw [Node.run_repetition, hiterate]
  simp [hvalues, htarget]

end Collects

/-! ## Words -/

abbrev wordGrammar : Node := .attribute "content" (.terminal "\\w+")

abbrev endsWord (rest : List Char) : Prop := ∀ c ∈ rest.head?, Unicode.isWord c.toNat = false

structure ReadsWords (m : Matcher) (depth : Nat) (reference : Reference)
    (build : String → Object) : Prop where
  word : ∀ {word rest : List Char} (offset : Nat), word ≠ [] →
    (∀ c ∈ word, Unicode.isWord c.toNat = true) → endsWord rest →
    m.enter depth reference ⟨offset, word ++ rest⟩ =
      .ok ((build (String.ofList word)).toValue, ⟨offset + byteLength word, rest⟩)
  other : ∀ {cursor : Cursor}, endsWord cursor.rest →
    m.enter depth reference cursor = .error (.mismatch "\\w+" cursor.offset)

theorem readsWords_of_resolve {m : Matcher} {reference : Reference} {fresh : Object}
    {build : String → Object} (depth : Nat)
    (hresolve : m.resolve reference = .ok (wordGrammar, fresh))
    (hbind : ∀ text, Targets.set fresh "content" (.text text) = (.ok (), build text)) :
    ReadsWords m (depth + 1) reference build where
  word {word rest} offset hne hword hrest := by
    have hrun : wordGrammar.run (m.enter depth) fresh ⟨offset, word ++ rest⟩ =
        (.ok (.target, ⟨offset + byteLength word, rest⟩), build (String.ofList word)) := by
      apply Node.run_attribute_of_bind
      · rw [Node.run, matchTerminal_manyOf compile_word offset hne hword hrest]
      · exact hbind (String.ofList word)
    simp only [Matcher.enter, hresolve, hrun]
  other {cursor} hrest := by
    have hmismatch := matchTerminal_manyOf_mismatch compile_word hrest
    simp only [Matcher.enter, hresolve, Node.run, hmismatch]

/-! ## Words and blanks -/

/-- Words, each with the number of blanks before it, and the blanks that come last. -/
def spaced (words : List (Nat × List Char)) (trailing : Nat) : List Char :=
  words.flatMap (fun entry => List.replicate entry.1 ' ' ++ entry.2) ++
    List.replicate trailing ' '

@[simp] theorem spaced_cons (entry : Nat × List Char) (words : List (Nat × List Char))
    (trailing : Nat) :
    spaced (entry :: words) trailing =
      List.replicate entry.1 ' ' ++ (entry.2 ++ spaced words trailing) := by
  simp [spaced]

/-- Words of word characters, which blanks divide. -/
structure IsSentence (words : List (Nat × List Char)) : Prop where
  ne_nil : ∀ entry ∈ words, entry.2 ≠ []
  isWord : ∀ entry ∈ words, ∀ c ∈ entry.2, Unicode.isWord c.toNat = true
  divided : ∀ entry ∈ words.tail, 0 < entry.1

abbrev pieceOf (reference : Reference) : Node :=
  .alternation [.ignore (.terminal " +"), reference.toNode]

theorem isWord_blank : Unicode.isWord ' '.toNat = false := by decide

section

variable (m : Matcher) (depth : Nat) (reference : Reference) (object : Object)
  {rest : List Char}

theorem run_pieceOf_blanks {count : Nat} (hcount : count ≠ 0) (offset : Nat)
    (hrest : ∀ c ∈ rest.head?, c ≠ ' ') :
    (pieceOf reference).run (m.enter depth) object ⟨offset, List.replicate count ' ' ++ rest⟩ =
      (.ok (.value .empty, ⟨offset + byteLength (List.replicate count ' '), rest⟩), object) := by
  have hne : List.replicate count ' ' ≠ [] := by simpa using hcount
  have hblanks : ∀ c ∈ List.replicate count ' ', (CharSet.single ' ').has c = true := by
    intro c hc
    simp [List.eq_of_mem_replicate hc]
  have hmatch := matchTerminal_manyOf compile_blanks offset hne hblanks (by simpa using hrest)
  rw [Node.run_alternation, Node.tryAll_cons, Node.run_ignore, Node.run, hmatch, andThen_ok,
    recover]

theorem run_pieceOf_of_ne_blank {cursor : Cursor} (hcursor : ∀ c ∈ cursor.rest.head?, c ≠ ' ') :
    (pieceOf reference).run (m.enter depth) object cursor =
      recover (yieldObject (m.enter depth reference cursor), object) fun object =>
        (.error (.noAlternative ((pieceOf reference).children.map Node.render) cursor.offset),
          object) := by
  have hmismatch : matchTerminal " +" cursor = .error (.mismatch " +" cursor.offset) :=
    matchTerminal_manyOf_mismatch compile_blanks (by simpa using hcursor)
  rw [Node.run_alternation, Node.tryAll_cons, Node.run_ignore, Node.run, hmismatch, andThen_error,
    recover_of_isRecoverable rfl, Node.tryAll_cons, Reference.run_toNode]
  rfl

end

section

variable {m : Matcher} {depth : Nat} {reference : Reference} {build : String → Object}
  {object : Object} {rest : List Char} {offset : Nat} {values : List Value} {last : Cursor}

theorem Collects.blanks (count : Nat) (hrest : ∀ c ∈ rest.head?, c ≠ ' ')
    (h : Collects m depth (pieceOf reference) object
      ⟨offset + byteLength (List.replicate count ' '), rest⟩ values last) :
    Collects m depth (pieceOf reference) object ⟨offset, List.replicate count ' ' ++ rest⟩ values
      last := by
  by_cases hcount : count = 0
  · subst hcount
    simpa using h
  · have hrun := run_pieceOf_blanks m depth reference object hcount offset hrest
    have hround := Collects.round ?_ hrun ?_ h
    · simpa [Value.empty, Value.flatten] using hround
    · simp [Cursor.isAtEnd, hcount]
    · simp [byteLength_eq_zero_iff, hcount]

theorem Collects.word (hreads : ReadsWords m depth reference build) {word : List Char}
    (hne : word ≠ []) (hword : ∀ c ∈ word, Unicode.isWord c.toNat = true) (hrest : endsWord rest)
    (h : Collects m depth (pieceOf reference) object ⟨offset + byteLength word, rest⟩ values last) :
    Collects m depth (pieceOf reference) object ⟨offset, word ++ rest⟩
      ((build (String.ofList word)).toValue :: values) last := by
  let cursor : Cursor := ⟨offset, word ++ rest⟩
  have hblank : ∀ c ∈ cursor.rest.head?, c ≠ ' ' := ne_of_head?_word hne hword isWord_blank
  have hrun := run_pieceOf_of_ne_blank m depth reference object hblank
  rw [hreads.word offset hne hword hrest] at hrun
  apply Collects.round ?_ hrun ?_ h
  · simp [cursor, Cursor.isAtEnd, hne]
  · simp [cursor, byteLength_eq_zero_iff, hne]

theorem Collects.other (hreads : ReadsWords m depth reference build) {cursor : Cursor}
    (hblank : ∀ c ∈ cursor.rest.head?, c ≠ ' ') (hword : endsWord cursor.rest) :
    Collects m depth (pieceOf reference) object cursor [] cursor := by
  cases hend : cursor.isAtEnd with
  | true => exact .atEnd hend
  | false =>
    have hrun := run_pieceOf_of_ne_blank m depth reference object hblank
    rw [hreads.other hword] at hrun
    exact .stop hend rfl hrun

theorem endsWord_spaced {words : List (Nat × List Char)} (hdivided : ∀ entry ∈ words, 0 < entry.1)
    (trailing : Nat) {tail : List Char} (htail : endsWord tail) :
    endsWord (spaced words trailing ++ tail) := by
  have hreplicate (count : Nat) (text : List Char) (htext : count = 0 → endsWord text) :
      endsWord (List.replicate count ' ' ++ text) := by
    cases count with
    | zero => simpa using htext rfl
    | succ count =>
      intro c hc
      rw [List.replicate_succ, List.cons_append, List.head?_cons, Option.mem_some_iff] at hc
      rw [← hc, isWord_blank]
  cases words with
  | nil => exact hreplicate trailing tail fun _ => htail
  | cons entry words =>
    have hpos : 0 < entry.1 := hdivided entry List.mem_cons_self
    have hfirst := hreplicate entry.1 (entry.2 ++ (spaced words trailing ++ tail)) (by omega)
    simpa [spaced] using hfirst

theorem collects_spaced (hreads : ReadsWords m depth reference build)
    {words : List (Nat × List Char)} (hwords : IsSentence words) (trailing offset : Nat)
    {tail : List Char} (htail : ∀ c ∈ tail.head?, c ≠ ' ' ∧ Unicode.isWord c.toNat = false) :
    Collects m depth (pieceOf reference) object ⟨offset, spaced words trailing ++ tail⟩
      (words.map fun entry => (build (String.ofList entry.2)).toValue)
      ⟨offset + byteLength (spaced words trailing), tail⟩ := by
  have hblank : ∀ c ∈ tail.head?, c ≠ ' ' := fun c hc => (htail c hc).1
  have hends : endsWord tail := fun c hc => (htail c hc).2
  induction words generalizing offset with
  | nil =>
    let last : Cursor := ⟨offset + byteLength (List.replicate trailing ' '), tail⟩
    have hstop : Collects m depth (pieceOf reference) object last [] last :=
      Collects.other hreads hblank hends
    simpa [spaced] using Collects.blanks trailing hblank hstop
  | cons entry words ih =>
    obtain ⟨hne, hnonempty⟩ := List.forall_mem_cons.mp hwords.ne_nil
    obtain ⟨hword, hisWord⟩ := List.forall_mem_cons.mp hwords.isWord
    have hdivided : ∀ other ∈ words, 0 < other.1 := hwords.divided
    have hfurther : IsSentence words :=
      ⟨hnonempty, hisWord, fun other hother => hdivided other (List.mem_of_mem_tail hother)⟩
    -- One round for the blanks, if there are any, and one for the word.
    have hafter := endsWord_spaced hdivided trailing hends
    have hstart : ∀ c ∈ (entry.2 ++ (spaced words trailing ++ tail)).head?, c ≠ ' ' :=
      ne_of_head?_word hne hword isWord_blank
    have hrest :=
      ih hfurther (offset + byteLength (List.replicate entry.1 ' ') + byteLength entry.2)
    have hround := Collects.blanks entry.1 hstart (Collects.word hreads hne hword hafter hrest)
    simpa [spaced_cons, Nat.add_assoc] using hround

end

/-! ## Sentences as a type and as rules -/

def wordOf (text : String) : Object :=
  ⟨"Word", ObjectType.wordSchema, [("content", .text text)]⟩

def sentenceOf (texts : List String) : Object :=
  ⟨"Sentence", ObjectType.sentenceSchema,
    [("content", .sequence (texts.map fun text => (wordOf text).toValue))]⟩

def sentenceRules : NameMap Node :=
  [("sentence", .attribute "content"
      (.repetition (.alternation [.ignore (.terminal " +"), .rule "word"]) false)),
    ("word", .attribute "content" (.terminal "\\w+"))]

def wordRecord (text : String) : Object := ⟨"word", .record, [("content", .text text)]⟩

def sentenceRecord (texts : List String) : Object :=
  ⟨"sentence", .record, [("content", .sequence (texts.map fun text => (wordRecord text).toValue))]⟩

theorem set_sentence (texts : List String) :
    Targets.set (ObjectType.sentence.instantiate "Sentence") "content"
      (.sequence (texts.map fun text => (wordOf text).toValue)) = (.ok (), sentenceOf texts) := by
  have hwords : (texts.map fun text => (wordOf text).toValue).find?
      (fun item => !item.isInstance "Word") = none := by
    rw [List.find?_eq_none]
    intro item hitem
    obtain ⟨text, _, rfl⟩ := List.mem_map.mp hitem
    simp [wordOf, Object.toValue, Value.isInstance, ObjectType.wordSchema, Schema.type?]
  have hcheck : (ObjectType.sentence.instantiate "Sentence").check "content"
      (.sequence (texts.map fun text => (wordOf text).toValue)) = .ok () := by
    simp only [Object.check, ObjectType.sentence, ObjectType.ofSchema, ObjectType.sentenceSchema,
      List.find?_cons, beq_self_eq_true, FieldShape.check, hwords]
  simp only [Targets.set, Object.bind, hcheck]
  rfl

theorem run_sentence {m : Matcher} {depth : Nat} {reference : Reference} {build : String → Object}
    (hreads : ReadsWords m depth reference build) {words : List (Nat × List Char)}
    (hwords : IsSentence words) (trailing : Nat) {tail : List Char}
    (htail : ∀ c ∈ tail.head?, c ≠ ' ' ∧ Unicode.isWord c.toNat = false) {fresh built : Object}
    (hbind : Targets.set fresh "content" (.sequence
      ((words.map fun entry => String.ofList entry.2).map fun text => (build text).toValue)) =
        (.ok (), built)) :
    (Node.attribute "content" (.repetition (pieceOf reference) false)).run (m.enter depth) fresh
        (Cursor.start (spaced words trailing ++ tail)) =
      if words.isEmpty then (.error (.tooFew 0), fresh)
      else (.ok (.target, ⟨byteLength (spaced words trailing), tail⟩), built) := by
  have hcollects : Collects m depth (pieceOf reference) fresh _ _ _ :=
    collects_spaced hreads hwords trailing 0 htail
  have hrun := hcollects.run_repetition
  rw [Nat.zero_add, List.isEmpty_map] at hrun
  by_cases hempty : words.isEmpty = true
  · rw [if_pos hempty] at hrun
    rw [if_pos hempty, Node.run_attribute, Cursor.start, hrun, andThen_error]
  · rw [if_neg hempty] at hrun ⊢
    apply Node.run_attribute_of_bind _ hrun
    rw [List.map_map] at hbind
    exact hbind

/-- Sentences recover their words. Take any number of words, each with blanks before it (at least
one but for the first word), more blanks after the last one, and then a text that goes on with
neither.
If there are words at all, the type of sentences and the rules for sentences both build exactly the
words in their order and leave that text. If there are none, both report at the start that one was
needed. -/
theorem sentences_recover_words (words : List (Nat × List Char)) (trailing : Nat)
    (tail : List Char) (hwords : IsSentence words)
    (htail : ∀ c ∈ tail.head?, c ≠ ' ' ∧ Unicode.isWord c.toNat = false)
    (rules : NameMap Node) (start : Option String) (limit : Nat) :
    let text := spaced words trailing ++ tail
    let texts := words.map fun entry => String.ofList entry.2
    let rest : Cursor := ⟨byteLength (spaced words trailing), tail⟩
    let typed := (Matcher.mk rules ObjectType.standard (limit + 1)).parse "Sentence" text
    let ruled := (RuleSet.mk sentenceRules start (limit + 1)).parse "sentence" text
    (words ≠ [] →
      typed = .ok ⟨sentenceOf texts, rest⟩ ∧ ruled = .ok ⟨sentenceRecord texts, rest⟩) ∧
      (words = [] → typed = .error (.tooFew 0) ∧ ruled = .error (.tooFew 0)) := by
  intro text texts rest typed ruled
  let m : Matcher := ⟨rules, ObjectType.standard, limit + 1⟩
  let m' : Matcher := ⟨sentenceRules, ObjectType.standard, limit + 1⟩
  have hreads : ReadsWords m (limit + 1) (.type "Word") wordOf :=
    readsWords_of_resolve limit rfl fun _ => rfl
  have hreads' : ReadsWords m' (limit + 1) (.rule "word") wordRecord :=
    readsWords_of_resolve limit rfl fun _ => rfl
  have hrun := run_sentence hreads hwords trailing htail (set_sentence texts)
  have hrun' := run_sentence hreads' hwords trailing htail
    (Targets.set_record "sentence" "content" [] _)
  constructor
  · intro hne
    have hempty : words.isEmpty = false := by simpa using hne
    rw [hempty, if_neg Bool.false_ne_true] at hrun hrun'
    constructor
    · exact Matcher.parseObject_of_ok (m := m) hrun
    · exact Matcher.parseObject_of_ok (m := m') hrun'
  · intro hnil
    have hempty : words.isEmpty = true := by simpa using hnil
    rw [hempty, if_pos rfl] at hrun hrun'
    constructor
    · exact Matcher.parseObject_of_error (m := m) hrun
    · exact Matcher.parseObject_of_error (m := m') hrun'

theorem sentences_recover_words_two :
    let m : Matcher := { }
    let set : RuleSet := { rules := sentenceRules, start := some "sentence" }
    m.parse "Sentence" " ab  d_1 .".toList = .ok ⟨sentenceOf ["ab", "d_1"], ⟨9, ['.']⟩⟩ ∧
      set.parse "sentence" " ab  d_1 .".toList =
        .ok ⟨sentenceRecord ["ab", "d_1"], ⟨9, ['.']⟩⟩ ∧
      m.parse "Sentence" "  .".toList = .error (.tooFew 0) := by
  intro m set
  let words : List (Nat × List Char) := [(1, ['a', 'b']), (2, ['d', '_', '1'])]
  have hall : (words.all fun entry => entry.2.all fun c => Unicode.isWord c.toNat) = true := by
    decide
  have hisWord : ∀ entry ∈ words, ∀ c ∈ entry.2, Unicode.isWord c.toNat = true := by
    intro entry hentry
    exact List.all_eq_true.mp (List.all_eq_true.mp hall entry hentry)
  have hwords : IsSentence words := ⟨by decide, hisWord, by decide⟩
  have hnone : IsSentence [] := ⟨by simp, by simp, by simp⟩
  have htail : ∀ c ∈ ['.'].head?, c ≠ ' ' ∧ Unicode.isWord c.toNat = false := by
    intro c hc
    cases hc
    decide
  have htwo := sentences_recover_words words 1 ['.'] hwords htail [] (some "sentence") 255
  have hempty := sentences_recover_words [] 2 ['.'] hnone htail [] (some "sentence") 255
  obtain ⟨htyped, hruled⟩ := htwo.1 (by simp [words])
  exact ⟨htyped, hruled, (hempty.2 rfl).1⟩

end TextGrammar
