import TextGrammar.Matching.Matcher
/-!
# Combinators

What a combinator comes to, from what its parts come to. Two operations on outcomes are enough: to
go on after a match, and to try something else after a failure that can be recovered from.
-/
namespace TextGrammar

variable {α β : Type}

/-- Goes on where a match has ended; a failure stays. -/
def andThen (matched : Outcome α × Object) (further : α → Cursor → Object → Outcome β × Object) :
    Outcome β × Object :=
  match matched with
  | (.ok (result, next), object) => further result next object
  | (.error failure, object) => (.error failure, object)

/-- Tries something else after a failure that can be recovered from. -/
def recover (matched : Outcome α × Object) (other : Object → Outcome α × Object) :
    Outcome α × Object :=
  match matched with
  | (.ok result, object) => (.ok result, object)
  | (.error failure, object) =>
    if failure.isRecoverable then other object else (.error failure, object)

@[simp] theorem andThen_ok (result : α) (next : Cursor) (object : Object)
    (further : α → Cursor → Object → Outcome β × Object) :
    andThen (.ok (result, next), object) further = further result next object := rfl

@[simp] theorem andThen_error (failure : Failure) (object : Object)
    (further : α → Cursor → Object → Outcome β × Object) :
    andThen (.error failure, object) further = (.error failure, object) := rfl

theorem andThen_assoc {γ : Type} (matched : Outcome α × Object)
    (further : α → Cursor → Object → Outcome β × Object)
    (last : β → Cursor → Object → Outcome γ × Object) :
    andThen (andThen matched further) last =
      andThen matched fun result next object => andThen (further result next object) last := by
  obtain ⟨failure | ⟨result, next⟩, object⟩ := matched <;> rfl

theorem recover_of_isRecoverable {failure : Failure} (h : failure.isRecoverable = true)
    (object : Object) (other : Object → Outcome α × Object) :
    recover (.error failure, object) other = other object := by
  simp [recover, h]

theorem recover_of_isFatal {failure : Failure} (h : failure.isRecoverable = false)
    (object : Object) (other : Object → Outcome α × Object) :
    recover (.error failure, object) other = (.error failure, object) := by
  simp [recover, h]

theorem recover_assoc (matched : Outcome α × Object) (other last : Object → Outcome α × Object) :
    recover (recover matched other) last =
      recover matched fun object => recover (other object) last := by
  obtain ⟨failure | result, object⟩ := matched
  · cases hrecover : failure.isRecoverable with
    | true => simp only [recover_of_isRecoverable hrecover]
    | false => simp only [recover_of_isFatal hrecover]
  · rfl

variable [Engine] [Targets]

namespace Node

variable (enter : Reference → Cursor → Outcome Value)

theorem run_sequence (parts : List Node) (object : Object) (cursor : Cursor) :
    (Node.sequence parts).run enter object cursor =
      andThen (runAll enter parts [] object cursor)
        fun _ next object => (.ok (.target, next), object) := by
  rw [run]
  rcases runAll enter parts [] object cursor with ⟨failure | ⟨values, next⟩, after⟩ <;> rfl

theorem run_collect (parts : List Node) (object : Object) (cursor : Cursor) :
    (Node.collect parts).run enter object cursor =
      andThen (runAll enter parts [] object cursor)
        fun values next object => (.ok (.value (.sequence values), next), object) := by
  rw [run]
  rcases runAll enter parts [] object cursor with ⟨failure | ⟨values, next⟩, after⟩ <;> rfl

theorem run_attribute (name : String) (part : Node) (object : Object) (cursor : Cursor) :
    (Node.attribute name part).run enter object cursor =
      andThen (part.run enter object cursor) fun yield next object =>
        match bindYield name yield object with
        | (.ok (), bound) => (.ok (.target, next), bound)
        | (.error failure, refused) => (.error failure, refused) := by
  rw [run]
  rcases part.run enter object cursor with ⟨failure | ⟨yield, next⟩, after⟩ <;> rfl

theorem run_attribute_of_bind {name : String} {part : Node} {object after bound : Object}
    {cursor next : Cursor} {value : Value}
    (hpart : part.run enter object cursor = (.ok (.value value, next), after))
    (hbind : Targets.set after name value = (.ok (), bound)) :
    (Node.attribute name part).run enter object cursor = (.ok (.target, next), bound) := by
  simp [run_attribute, hpart, bindYield, hbind]

theorem run_ignore (part : Node) (object : Object) (cursor : Cursor) :
    (Node.ignore part).run enter object cursor =
      andThen (part.run enter object cursor)
        fun _ next object => (.ok (.value .empty, next), object) := by
  rw [run]
  rcases part.run enter object cursor with ⟨failure | ⟨yield, next⟩, after⟩ <;> rfl

theorem run_optional (part : Node) (object : Object) (cursor : Cursor) :
    (Node.optional part).run enter object cursor =
      recover (part.run enter object cursor)
        fun object => (.ok (.value .empty, cursor), object) := by
  rw [run]
  rcases part.run enter object cursor with ⟨failure | result, after⟩ <;> rfl

/-! ## Parts in a row -/

theorem runAll_cons (part : Node) (parts : List Node) (values : List Value) (object : Object)
    (cursor : Cursor) :
    runAll enter (part :: parts) values object cursor =
      andThen (part.run enter object cursor) fun yield next object =>
        runAll enter parts (values ++ yield.flatten) object next := by
  rw [runAll]
  rcases part.run enter object cursor with ⟨failure | ⟨yield, next⟩, after⟩ <;> rfl

theorem runAll_append (first second : List Node) (values : List Value) (object : Object)
    (cursor : Cursor) :
    runAll enter (first ++ second) values object cursor =
      andThen (runAll enter first values object cursor) fun values next object =>
        runAll enter second values object next := by
  induction first generalizing values object cursor with
  | nil => rfl
  | cons part first ih =>
    rw [List.cons_append, runAll_cons, runAll_cons, andThen_assoc]
    simp only [ih]

theorem runAll_values (parts : List Node) (values : List Value) (object : Object)
    (cursor : Cursor) :
    runAll enter parts values object cursor =
      andThen (runAll enter parts [] object cursor) fun further next object =>
        (.ok (values ++ further, next), object) := by
  induction parts generalizing values object cursor with
  | nil => simp [runAll]
  | cons part parts ih =>
    rw [runAll_cons, runAll_cons, andThen_assoc]
    simp only [List.nil_append]
    congr 1
    funext yield next object
    rw [ih (values ++ yield.flatten), ih yield.flatten, andThen_assoc]
    simp only [andThen_ok, List.append_assoc]

/-! ## Parts in turn -/

/-- Tries parts at the same cursor; `failure` is reported if all of them fail recoverably. -/
def tryAll (parts : List Node) (failure : Failure) (object : Object) (cursor : Cursor) :
    Outcome Yield × Object :=
  ((runFirst enter parts object cursor).1.getD (.error failure),
    (runFirst enter parts object cursor).2)

theorem run_alternation (parts : List Node) (object : Object) (cursor : Cursor) :
    (Node.alternation parts).run enter object cursor =
      tryAll enter parts (.noAlternative (parts.map render) cursor.offset) object cursor := by
  rw [run, tryAll]
  rcases runFirst enter parts object cursor with ⟨_ | outcome, after⟩ <;> rfl

@[simp] theorem tryAll_nil (failure : Failure) (object : Object) (cursor : Cursor) :
    tryAll enter [] failure object cursor = (.error failure, object) := rfl

theorem tryAll_cons (part : Node) (parts : List Node) (failure : Failure) (object : Object)
    (cursor : Cursor) :
    tryAll enter (part :: parts) failure object cursor =
      recover (part.run enter object cursor) fun object =>
        tryAll enter parts failure object cursor := by
  rw [tryAll, runFirst]
  rcases part.run enter object cursor with ⟨failed | result, after⟩
  · cases hrecover : failed.isRecoverable with
    | true => simp only [hrecover, ↓reduceIte, recover_of_isRecoverable, tryAll]
    | false => simp [hrecover, recover_of_isFatal]
  · rfl

theorem tryAll_append (first second : List Node) {failed : Failure}
    (hfailed : failed.isRecoverable = true) (failure : Failure) (object : Object)
    (cursor : Cursor) :
    tryAll enter (first ++ second) failure object cursor =
      recover (tryAll enter first failed object cursor) fun object =>
        tryAll enter second failure object cursor := by
  induction first generalizing object with
  | nil => rw [List.nil_append, tryAll_nil, recover_of_isRecoverable hfailed]
  | cons part first ih =>
    rw [List.cons_append, tryAll_cons, tryAll_cons, recover_assoc]
    simp only [ih]

end Node

/-! ## Whole parses -/

namespace Matcher

variable {m : Matcher} {grammar : Node} {fresh object : Object} {text : List Char}

theorem parseObject_of_ok {yield : Yield} {rest : Cursor}
    (h : grammar.run (m.enter m.maxDepth) fresh (Cursor.start text) =
      (.ok (yield, rest), object)) :
    m.parseObject grammar fresh text = .ok ⟨object, rest⟩ := by
  simp [parseObject, parseInto, matchNode, h]

theorem parseObject_of_error {failure : Failure}
    (h : grammar.run (m.enter m.maxDepth) fresh (Cursor.start text) = (.error failure, object)) :
    m.parseObject grammar fresh text = .error failure := by
  simp [parseObject, parseInto, matchNode, h]

end Matcher

end TextGrammar
