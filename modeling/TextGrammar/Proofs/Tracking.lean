import TextGrammar.Pattern.Parser
/-!
# Two readings of a pattern

A pattern on its own and the same pattern before a closing parenthesis are read side by side. One
reading tracks the other as long as the parenthesis is still before it, or a comment at the end of
the pattern has taken it in.
-/
namespace TextGrammar.Pattern

theorem bind_eq_some_iff {α β : Type} {p : Parser α} {f : α → Parser β} {s : State}
    {found : β × State} :
    (p >>= f) s = some found ↔ ∃ a middle, p s = some (a, middle) ∧ f a middle = some found :=
  Option.bind_eq_some_iff.trans Prod.exists

/-- The reading `within` parentheses has come as far as the reading of the pattern `alone`. -/
def Enclosed (alone within : State) : Prop :=
  within = { alone with rest := alone.rest ++ [')'] } ∨ within = alone ∧ alone.rest = []

theorem dropBlank_concat (inComment : Bool) (rest : List Char) :
    dropBlank inComment (rest ++ [')']) = dropBlank inComment rest ++ [')'] ∨
      dropBlank inComment (rest ++ [')']) = [] ∧ dropBlank inComment rest = [] := by
  induction rest generalizing inComment with
  | nil =>
    cases inComment with
    | true => exact .inr ⟨rfl, rfl⟩
    | false => exact .inl rfl
  | cons c rest ih =>
    simp only [List.cons_append, dropBlank]
    split
    · exact ih _
    · split
      · exact ih _
      · split
        · exact ih _
        · exact .inl rfl

theorem prefix_concat_iff {text rest : List Char} (htext : ')' ∉ text) :
    text <+: rest ++ [')'] ↔ text <+: rest := by
  rw [List.prefix_concat_iff, or_iff_right]
  rintro rfl
  simp at htext

namespace Enclosed

variable {alone within : State}

theorem flags_eq (h : Enclosed alone within) : within.flags = alone.flags := by
  obtain rfl | ⟨rfl, _⟩ := h <;> rfl

theorem head?_cases (h : Enclosed alone within) :
    within.rest.head? = alone.rest.head? ∨
      alone.rest.head? = none ∧ within.rest.head? = some ')' := by
  obtain rfl | ⟨rfl, _⟩ := h
  · cases alone.rest with
    | nil => exact .inr ⟨rfl, rfl⟩
    | cons c rest => exact .inl rfl
  · exact .inl rfl

theorem prefix_iff {text : List Char} (h : Enclosed alone within) (htext : ')' ∉ text) :
    text <+: within.rest ↔ text <+: alone.rest := by
  obtain rfl | ⟨rfl, _⟩ := h
  · exact prefix_concat_iff htext
  · rfl

/-- Where the reading of the pattern alone does not go on, the other one does not go on either,
unless the parenthesis fits. -/
theorem stops {fits : Char → Bool} (h : Enclosed alone within)
    (hfits : fits ')' = false ∨ alone.rest ≠ [])
    (hstop : ∀ c, alone.rest.head? = some c → fits c = false) (c : Char)
    (hc : within.rest.head? = some c) : fits c = false := by
  rcases h.head?_cases with heq | ⟨hnone, hparen⟩
  · exact hstop c (heq ▸ hc)
  · cases hparen.symm.trans hc
    exact hfits.resolve_right (absurd (List.head?_eq_none_iff.mp hnone))

/-- At its end the pattern has nothing to skip, so the parenthesis may be skipped instead. -/
theorem tail (h : Enclosed alone within) :
    Enclosed { alone with rest := alone.rest.tail } { within with rest := within.rest.tail } := by
  obtain rfl | ⟨rfl, hrest⟩ := h
  · cases hrest : alone.rest with
    | nil => exact .inr ⟨rfl, rfl⟩
    | cons c rest => exact .inl rfl
  · exact .inr ⟨rfl, by simp [hrest]⟩

theorem drop {n : Nat} (h : Enclosed alone within) (hn : n ≤ alone.rest.length) :
    Enclosed { alone with rest := alone.rest.drop n }
      { within with rest := within.rest.drop n } := by
  obtain rfl | ⟨rfl, hrest⟩ := h
  · exact .inl (by simp only [List.drop_append_of_le_length hn])
  · exact .inr ⟨rfl, by simp [hrest]⟩

theorem dropBlank (h : Enclosed alone within) :
    Enclosed { alone with rest := dropBlank false alone.rest }
      { within with rest := Pattern.dropBlank false within.rest } := by
  obtain rfl | ⟨rfl, hrest⟩ := h
  · rcases dropBlank_concat false alone.rest with h | ⟨h, h'⟩
    · exact .inl (by simp only [h])
    · exact .inr ⟨by simp only [h, h'], h'⟩
  · exact .inr ⟨rfl, by simp [hrest, Pattern.dropBlank]⟩

theorem dropWhile {fits : Char → Bool} (hfits : fits ')' = false) (h : Enclosed alone within) :
    Enclosed { alone with rest := alone.rest.dropWhile fits }
      { within with rest := within.rest.dropWhile fits } := by
  obtain rfl | ⟨rfl, hrest⟩ := h
  · left
    have hparen : [')'].dropWhile fits = [')'] := by simp [hfits]
    simp only [List.dropWhile_append, hparen]
    split
    · next hempty => rw [List.isEmpty_iff.mp hempty, List.nil_append]
    · rfl
  · exact .inr ⟨rfl, by simp [hrest]⟩

theorem setFlags (h : Enclosed alone within) (flags : Flags) :
    Enclosed { alone with flags := flags } { within with flags := flags } := by
  obtain rfl | ⟨rfl, hrest⟩ := h
  · exact .inl rfl
  · exact .inr ⟨rfl, hrest⟩

end Enclosed

/-- What `p` reads from the pattern alone, `q` reads from the pattern within parentheses. -/
def Tracks {α : Type} (p q : Parser α) : Prop :=
  ∀ alone within, Enclosed alone within → ∀ a alone', p alone = some (a, alone') →
    ∃ within', q within = some (a, within') ∧ Enclosed alone' within'

namespace Tracks

variable {α β : Type} {p q : Parser α} {f g : α → Parser β}

theorem of_fails (h : ∀ s, p s = none) : Tracks p q := by
  intro alone within _ a alone' hp
  rw [h alone] at hp
  cases hp

protected theorem pure (a : α) : Tracks (pure a) (pure a) := by
  rintro alone within henclosed _ _ ⟨⟩
  exact ⟨within, rfl, henclosed⟩

protected theorem failure : Tracks failure q := of_fails fun _ => rfl

protected theorem bind (h : Tracks p q) (h' : ∀ a, Tracks (f a) (g a)) :
    Tracks (p >>= f) (q >>= g) := by
  intro alone within henclosed b alone' hp
  obtain ⟨a, middle, hfirst, hsecond⟩ := bind_eq_some_iff.mp hp
  obtain ⟨middle', hfirst', hmiddle⟩ := h alone within henclosed a middle hfirst
  obtain ⟨within', hsecond', hend⟩ := h' a middle middle' hmiddle b alone' hsecond
  exact ⟨within', bind_eq_some_iff.mpr ⟨_, _, hfirst', hsecond'⟩, hend⟩

protected theorem ite {c : Prop} [Decidable c] {p' q' : Parser α} (h : Tracks p q)
    (h' : Tracks p' q') : Tracks (if c then p else p') (if c then q else q') := by
  split
  · exact h
  · exact h'

protected theorem lift (o : Option α) : Tracks (liftM o) (liftM o) := by
  cases o with
  | none => exact of_fails fun _ => rfl
  | some a => exact .pure a

protected theorem guard (c : Prop) [Decidable c] : Tracks (guard c) (guard c) :=
  .ite (.pure ()) .failure

protected theorem get {f g : State → Parser β}
    (h : ∀ alone within, Enclosed alone within → Tracks (f alone) (g within)) :
    Tracks (get >>= f) (get >>= g) := by
  intro alone within henclosed
  exact h alone within henclosed alone within henclosed

protected theorem set {alone within : State} (h : Enclosed alone within) :
    Tracks (set alone) (set within) := by
  rintro _ _ _ _ _ ⟨⟩
  exact ⟨within, rfl, h⟩

protected theorem modify {change change' : State → State}
    (h : ∀ alone within, Enclosed alone within → Enclosed (change alone) (change' within)) :
    Tracks (modify change) (modify change') := by
  rintro alone within henclosed _ _ ⟨⟩
  exact ⟨change' within, rfl, h alone within henclosed⟩

theorem of_next {f g : Option Char → Parser β} {next next' : Option Char}
    (hnext : next' = next ∨ next = none ∧ next' = some ')') (h : ∀ c, Tracks (f c) (g c))
    (hend : Tracks (f none) (g (some ')'))) : Tracks (f next) (g next') := by
  obtain rfl | ⟨rfl, rfl⟩ := hnext
  · exact h _
  · exact hend

protected theorem peek {f g : Option Char → Parser β} (h : ∀ c, Tracks (f c) (g c))
    (hend : Tracks (f none) (g (some ')'))) : Tracks (peek >>= f) (peek >>= g) := by
  intro alone within henclosed
  exact of_next henclosed.head?_cases h hend alone within henclosed

theorem bind_peek {f g : α → Option Char → Parser β} (h : Tracks p q)
    (hmore : ∀ s a s', p s = some (a, s') → s'.rest ≠ []) (h' : ∀ a c, Tracks (f a c) (g a c)) :
    Tracks (p >>= fun a => Pattern.peek >>= f a) (q >>= fun a => Pattern.peek >>= g a) := by
  intro alone within henclosed b alone' hp
  obtain ⟨a, middle, hfirst, hsecond⟩ := bind_eq_some_iff.mp hp
  obtain ⟨middle', hfirst', hmiddle⟩ := h alone within henclosed a middle hfirst
  have hnext : Tracks (f a middle.rest.head?) (g a middle'.rest.head?) := by
    rcases hmiddle.head?_cases with heq | ⟨hnone, _⟩
    · rw [heq]
      exact h' a _
    · cases hmore alone a middle hfirst (List.head?_eq_none_iff.mp hnone)
  obtain ⟨within', hsecond', hend⟩ := hnext middle middle' hmiddle b alone' hsecond
  exact ⟨within', bind_eq_some_iff.mpr ⟨_, _, hfirst', hsecond'⟩, hend⟩

protected theorem remaining {f g : Nat → Parser β} (h : ∀ n n', n ≤ n' → Tracks (f n) (g n')) :
    Tracks (remaining >>= f) (remaining >>= g) := by
  intro alone within henclosed
  refine h alone.rest.length within.rest.length ?_ alone within henclosed
  obtain rfl | ⟨rfl, _⟩ := henclosed
  · simp
  · exact Nat.le_refl _

protected theorem peekSecond {f g : Option Char → Parser β} (h : ∀ c, Tracks (f c) (g c))
    (hend : Tracks (f none) (g (some ')'))) : Tracks (peekSecond >>= f) (peekSecond >>= g) := by
  intro alone within henclosed
  let second (s : State) : Option Char :=
    (if s.flags.has .verbose then dropBlank false s.rest.tail else s.rest.tail).head?
  have hsecond : second within = second alone ∨
      second alone = none ∧ second within = some ')' := by
    simp only [second, henclosed.flags_eq]
    split
    · exact henclosed.tail.dropBlank.head?_cases
    · exact henclosed.tail.head?_cases
  exact of_next hsecond h hend alone within henclosed

end Tracks

theorem hasFlag_tracks (flag : Flag) : Tracks (hasFlag flag) (hasFlag flag) := by
  refine .get fun alone within henclosed => ?_
  rw [henclosed.flags_eq]
  exact .pure _

theorem bump_tracks : Tracks bump bump := .modify fun _ _ henclosed => henclosed.tail

theorem skipBlank_tracks : Tracks skipBlank skipBlank :=
  (hasFlag_tracks .verbose).bind fun _ =>
    .ite (.modify fun _ _ henclosed => henclosed.dropBlank) (.pure ())

theorem bumpBlank_tracks : Tracks bumpBlank bumpBlank := bump_tracks.bind fun _ => skipBlank_tracks

theorem expect_tracks (c : Char) : Tracks (expect c) (expect c) :=
  .peek (fun _ => .bind (.guard _) fun _ => bump_tracks) (.of_fails fun _ => rfl)

theorem accept_tracks {text : String} (htext : ')' ∉ text.toList) :
    Tracks (accept text) (accept text) := by
  refine .get fun alone within henclosed => ?_
  by_cases hprefix : text.toList <+: alone.rest
  · rw [if_pos (List.isPrefixOf_iff_prefix.mpr hprefix),
      if_pos (List.isPrefixOf_iff_prefix.mpr ((henclosed.prefix_iff htext).mpr hprefix))]
    have hlength : text.length ≤ alone.rest.length := hprefix.length_le
    exact .bind (.set (henclosed.drop hlength)) fun _ => .pure _
  · rw [if_neg (mt List.isPrefixOf_iff_prefix.mp hprefix),
      if_neg (mt List.isPrefixOf_iff_prefix.mp (mt (henclosed.prefix_iff htext).mp hprefix))]
    exact .pure _

/-! ## Runs of characters -/

theorem dropBlank_length_le (inComment : Bool) (rest : List Char) :
    (dropBlank inComment rest).length ≤ rest.length := by
  fun_induction dropBlank inComment rest with
  | case1 | case5 => exact Nat.le_refl _
  | case2 _ _ ih => exact Nat.le_succ_of_le ih
  | case3 _ _ _ _ _ ih => exact Nat.le_succ_of_le ih
  | case4 _ _ _ _ _ _ ih => exact Nat.le_succ_of_le ih

theorem skipBlank_length_le {s s' : State} (h : skipBlank s = some ((), s')) :
    s'.rest.length ≤ s.rest.length := by
  replace h : (if s.flags.has .verbose then
      modify fun s => { s with rest := dropBlank false s.rest }
    else pure () : Parser Unit) s = some ((), s') := h
  split at h
  · cases h
    exact dropBlank_length_le _ _
  · cases h
    exact Nat.le_refl _

theorem bumpBlank_length_le {s s' : State} (h : bumpBlank s = some ((), s')) :
    s'.rest.length ≤ s.rest.length - 1 := by
  rw [← List.length_tail]
  exact skipBlank_length_le (s := { s with rest := s.rest.tail }) h

theorem takeChars_cons {fits : Char → Bool} (n : Nat) {s : State} {c : Char} {rest : List Char}
    (hrest : s.rest = c :: rest) :
    takeChars fits (n + 1) s =
      (if fits c then bumpBlank >>= fun _ => takeChars fits n >>= fun cs => pure (c :: cs)
        else pure [] : Parser (List Char)) s := by
  cases s
  cases hrest
  rfl

theorem takeChars_stop {fits : Char → Bool} (n : Nat) {s : State}
    (h : ∀ c, s.rest.head? = some c → fits c = false) : takeChars fits n s = some ([], s) := by
  cases n with
  | zero => rfl
  | succ n =>
    cases hrest : s.rest with
    | nil =>
      cases s
      cases hrest
      rfl
    | cons c rest =>
      have hc : fits c = false := h c (by rw [hrest]; rfl)
      rw [takeChars_cons n hrest, hc]
      rfl

/-- With fuel that covers both texts, or little fuel that both readings share, characters are taken
alike. If the parenthesis fits, the run has to stop within the pattern. -/
theorem takeChars_follows {fits : Char → Bool} {n n' : Nat} {alone within alone' : State}
    {cs : List Char} (hfuel : n = n' ∨ alone.rest.length ≤ n ∧ within.rest.length ≤ n')
    (hfits : fits ')' = false ∨ alone'.rest ≠ []) (henclosed : Enclosed alone within)
    (h : takeChars fits n alone = some (cs, alone')) :
    ∃ within', takeChars fits n' within = some (cs, within') ∧ Enclosed alone' within' := by
  induction n generalizing n' alone within cs with
  | zero =>
    cases h
    refine ⟨within, ?_, henclosed⟩
    rcases hfuel with rfl | ⟨hlength, _⟩
    · rfl
    · refine takeChars_stop n' (henclosed.stops hfits ?_)
      simp [List.eq_nil_of_length_eq_zero (Nat.le_zero.mp hlength)]
  | succ n ih =>
    by_cases hstop : ∀ c, alone.rest.head? = some c → fits c = false
    · rw [takeChars_stop _ hstop] at h
      cases h
      exact ⟨within, takeChars_stop n' (henclosed.stops hfits hstop), henclosed⟩
    · obtain ⟨c, hc, hfit⟩ : ∃ c, alone.rest.head? = some c ∧ fits c = true := by
        simpa using hstop
      obtain ⟨rest, hrest⟩ := List.head?_eq_some_iff.mp hc
      have hc' : within.rest.head? = some c := by
        rcases henclosed.head?_cases with heq | ⟨hnone, _⟩
        · exact heq.trans hc
        · cases hnone.symm.trans hc
      obtain ⟨rest', hrest'⟩ := List.head?_eq_some_iff.mp hc'
      -- Both take the character, and a step leaves less text for the fuel that remains.
      obtain ⟨m, rfl⟩ : ∃ m, n' = m + 1 := by
        refine ⟨n' - 1, ?_⟩
        simp only [hrest', List.length_cons] at hfuel
        omega
      rw [takeChars_cons n hrest, if_pos hfit] at h
      rw [takeChars_cons m hrest', if_pos hfit]
      obtain ⟨_, middle, hbump, h⟩ := bind_eq_some_iff.mp h
      obtain ⟨cs, _, htake, h⟩ := bind_eq_some_iff.mp h
      cases h
      obtain ⟨middle', hbump', hmiddle⟩ := bumpBlank_tracks alone within henclosed () middle hbump
      have hlength := bumpBlank_length_le hbump
      have hlength' := bumpBlank_length_le hbump'
      obtain ⟨last', htake', hlast⟩ := @ih m middle middle' cs (by grind) hmiddle htake
      refine ⟨last', ?_, hlast⟩
      exact bind_eq_some_iff.mpr ⟨_, _, hbump', bind_eq_some_iff.mpr ⟨_, _, htake', rfl⟩⟩

theorem takeChars_tracks {fits : Char → Bool} (hfits : fits ')' = false) (n : Nat) :
    Tracks (takeChars fits n) (takeChars fits n) :=
  fun _ _ henclosed _ _ => takeChars_follows (.inl rfl) (.inl hfits) henclosed

theorem Tracks.takeChars {β : Type} {fits : Char → Bool} {f g : List Char → Parser β}
    (hfits : fits ')' = false ∨ ∀ cs s, s.rest = [] → f cs s = none)
    (h : ∀ cs, Tracks (f cs) (g cs)) :
    Tracks (remaining >>= fun n => takeChars fits n >>= f)
      (remaining >>= fun n => takeChars fits n >>= g) := by
  intro alone within henclosed b last hp
  replace hp : (Pattern.takeChars fits alone.rest.length >>= f) alone = some (b, last) := hp
  obtain ⟨cs, alone', hfirst, hsecond⟩ := bind_eq_some_iff.mp hp
  have hstop : fits ')' = false ∨ alone'.rest ≠ [] := by
    refine hfits.imp_right fun hfails hrest => ?_
    cases (hfails cs alone' hrest).symm.trans hsecond
  obtain ⟨within', hfirst', hmiddle⟩ :=
    takeChars_follows (.inr ⟨Nat.le_refl _, Nat.le_refl within.rest.length⟩) hstop henclosed hfirst
  obtain ⟨last', hsecond', hlast⟩ := h cs alone' within' hmiddle b last hsecond
  have hq : (Pattern.takeChars fits within.rest.length >>= g) within = some (b, last') :=
    bind_eq_some_iff.mpr ⟨_, _, hfirst', hsecond'⟩
  exact ⟨last', hq, hlast⟩

end TextGrammar.Pattern
