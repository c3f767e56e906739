import TextGrammar.Text.Reader
/-!
# Readers

What each reader takes from the front of a text, and a property of all that a reader can read.
-/
namespace TextGrammar.Reader

theorem bind_of {α β : Type} {reader : Reader α} {next : α → Reader β} {text rest : List Char}
    {a : α} (h : reader text = some (a, rest)) : (reader >>= next) text = next a rest := by
  show (reader text).bind _ = _
  rw [h]
  rfl

theorem peek_cons (c : Char) (rest : List Char) : peek (c :: rest) = some (some c, c :: rest) := rfl

theorem next_cons (c : Char) (rest : List Char) : next (c :: rest) = some (c, rest) := rfl

theorem guard_of {p : Prop} [Decidable p] (h : p) (text : List Char) :
    (guard p : Reader Unit) text = some ((), text) :=
  congrFun (if_pos h) text

theorem expect_self (c : Char) (rest : List Char) : expect c (c :: rest) = some ((), rest) :=
  (bind_of (next_cons c rest)).trans (guard_of (beq_self_eq_true c) rest)

theorem accept_self (c : Char) (rest : List Char) : accept c (c :: rest) = some (true, rest) := by
  show (if c == c then (do set rest; return true : Reader Bool) else return false) (c :: rest) = _
  rw [if_pos (beq_self_eq_true c)]
  rfl

theorem accept_of_ne {c : Char} {text : List Char} (h : ∀ d ∈ text.head?, d ≠ c) :
    accept c text = some (false, text) := by
  cases text with
  | nil => rfl
  | cons d rest =>
    show (if c == d then (do set rest; return true : Reader Bool) else return false) (d :: rest) = _
    rw [if_neg (by simpa using (h d rfl).symm)]
    rfl

theorem acceptAll_append (word : String) (rest : List Char) :
    acceptAll word (word.toList ++ rest) = some (true, rest) := by
  have hprefix : word.toList.isPrefixOf (word.toList ++ rest) = true :=
    List.isPrefixOf_iff_prefix.mpr (List.prefix_append _ _)
  rw [acceptAll]
  refine (bind_of rfl).trans ?_
  rw [if_pos hprefix, ← String.length_toList, List.drop_left]
  rfl

theorem takeWhile_append {fits : Char → Bool} {taken rest : List Char}
    (htaken : ∀ c ∈ taken, fits c = true) (hrest : ∀ c ∈ rest.head?, fits c = false) :
    takeWhile fits (taken ++ rest) = some (taken, rest) := by
  show some ((taken ++ rest).takeWhile fits, (taken ++ rest).dropWhile fits) = _
  rw [List.takeWhile_append_of_pos htaken, List.dropWhile_append_of_pos htaken]
  cases rest with
  | nil => simp
  | cons c rest => simp [hrest c rfl]

theorem takeWhile_append_of_stop {fits : Char → Bool} {taken rest : List Char}
    (htaken : ∀ c ∈ taken, fits c = true) (hrest : ∀ c ∈ rest.head?, fits c = false) :
    (taken ++ rest).takeWhile fits = taken := by
  have hread := takeWhile_append htaken hrest
  exact congrArg Prod.fst (Option.some.inj hread)

theorem skipWhile_of_stop {fits : Char → Bool} {text : List Char}
    (h : ∀ c ∈ text.head?, fits c = false) : skipWhile fits text = some ((), text) := by
  cases text with
  | nil => rfl
  | cons c rest =>
    have hc : fits c = false := h c rfl
    show some ((), (c :: rest).dropWhile fits) = _
    rw [List.dropWhile_cons_of_neg (by simp [hc])]

theorem readAll_eq_some_iff {α : Type} {reader : Reader α} {text : List Char} {a : α} :
    readAll reader text = some a ↔ reader text = some (a, []) := by
  rw [readAll, StateT.run]
  split <;> simp_all

/-- Whatever `reader` reads has the property. -/
def Yields {α : Type} (P : α → Prop) (reader : Reader α) : Prop :=
  ∀ ⦃text a rest⦄, reader text = some (a, rest) → P a

namespace Yields

variable {α β : Type} {P : α → Prop} {Q : β → Prop}

theorem failure : Yields P failure := nofun

theorem pure {a : α} (h : P a) : Yields P (pure a) := by
  rintro _ _ _ ⟨⟩
  exact h

theorem bind {reader : Reader α} {next : α → Reader β} (h : Yields P reader)
    (hnext : ∀ a, P a → Yields Q (next a)) : Yields Q (reader >>= next) := by
  intro text b rest hread
  obtain ⟨⟨a, middle⟩, ha, hb⟩ := Option.bind_eq_some_iff.mp hread
  exact hnext a (h ha) hb

theorem after {reader : Reader α} {next : α → Reader β} (hnext : ∀ a, Yields Q (next a)) :
    Yields Q (reader >>= next) :=
  bind (P := fun _ => True) (fun _ _ _ _ => trivial) fun a _ => hnext a

end Yields

end TextGrammar.Reader
