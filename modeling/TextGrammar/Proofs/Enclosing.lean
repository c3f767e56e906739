import Mathlib.Data.Option.Basic
import TextGrammar.Proofs.Tracking
/-!
# Patterns in parentheses

A pattern that is well formed on its own is read in parentheses as it is read on its own: every
part of the reader tracks itself, whatever fuel the longer text gives it.
-/
namespace TextGrammar.Pattern

/-! ## Escapes -/

theorem hexEscape_tracks (width : Nat) : Tracks (hexEscape width) (hexEscape width) := by
  refine bumpBlank_tracks.bind fun _ => .peek (fun _ => .ite ?braces ?plain) ?plain
  case braces =>
    refine bumpBlank_tracks.bind fun _ => .takeChars (.inl rfl) fun digits => ?_
    refine .peek (fun _ => .bind (.guard _) fun _ => ?_) (.of_fails fun _ => rfl)
    exact bumpBlank_tracks.bind fun _ => .bind (.guard _) fun _ => .bind (.lift _) fun _ => .pure _
  case plain =>
    refine (takeChars_tracks rfl width).bind fun digits => ?_
    exact .bind (.guard _) fun _ => .bind (.lift _) fun _ => .pure _

theorem propertyEscape_tracks (negated : Bool) :
    Tracks (propertyEscape negated) (propertyEscape negated) := by
  refine bumpBlank_tracks.bind fun _ => .peek (fun o => .bind (.lift o) fun c => .ite ?_ ?_)
    (.of_fails fun _ => rfl)
  · refine bumpBlank_tracks.bind fun _ => .takeChars (.inr ?_) fun query => ?_
    · -- A parenthesis could be part of a name, but a name that reaches it lacks its brace.
      rintro query ⟨rest, _, _, _⟩ hrest
      cases hrest
      rfl
    · refine (expect_tracks _).bind fun _ => .bind (.lift _) fun _ => ?_
      refine (hasFlag_tracks _).bind fun _ => .bind (.guard _) fun _ => ?_
      exact (hasFlag_tracks _).bind fun _ => .pure _
  · refine .bind (.guard _) fun _ => bumpBlank_tracks.bind fun _ => .bind (.lift _) fun _ => ?_
    refine (hasFlag_tracks _).bind fun _ => .bind (.guard _) fun _ => ?_
    exact (hasFlag_tracks _).bind fun _ => .pure _

theorem perlEscape_tracks (unicodeSet asciiSet : CharSet) (negated : Bool) :
    Tracks (perlEscape unicodeSet asciiSet negated) (perlEscape unicodeSet asciiSet negated) :=
  bump_tracks.bind fun _ => (hasFlag_tracks _).bind fun _ =>
    .ite (.pure _) (.bind (.guard _) fun _ => .pure _)

theorem wordLook_tracks (edge : WordEdge) : Tracks (wordLook edge) (wordLook edge) :=
  (hasFlag_tracks _).bind fun _ => .pure _

theorem namedEdge_tracks : Tracks namedEdge namedEdge := by
  refine .get fun alone within henclosed => .peek (fun _ => .ite (.pure _) ?_) (.pure _)
  refine bumpBlank_tracks.bind fun _ => .peek (fun o => .bind (.lift o) fun c => ?_)
    (.of_fails fun _ => rfl)
  refine .ite (.bind (.set henclosed) fun _ => .pure _) ?_
  refine .takeChars (.inl rfl) fun name => (expect_tracks _).bind fun _ => ?_
  split
  · exact .pure _
  · exact .pure _
  · exact .pure _
  · exact .pure _
  · exact .failure

theorem escape_tracks : Tracks escape escape := by
  refine bump_tracks.bind fun _ => .peek (fun o => .bind (.lift o) fun c => ?_)
    (.of_fails fun _ => rfl)
  split
  all_goals
    try first | exact hexEscape_tracks _ | exact propertyEscape_tracks _ |
      exact perlEscape_tracks _ _ _
  refine bump_tracks.bind fun _ => ?_
  split
  all_goals try first | exact .pure _ | exact wordLook_tracks _
  · exact namedEdge_tracks.bind wordLook_tracks
  · exact .bind (.guard _) fun _ => .pure _

/-! ## Classes -/

theorem fold_tracks (set : CharSet) : Tracks (fold set) (fold set) :=
  (hasFlag_tracks _).bind fun _ => .ite ((hasFlag_tracks _).bind fun _ => .pure _) (.pure _)

theorem combine_tracks (left : Option (SetOperator × SetPiece)) (right : SetPiece) :
    Tracks (combine left right) (combine left right) := by
  obtain _ | ⟨operator, left⟩ := left
  · exact .pure _
  · refine (fold_tracks _).bind fun _ => (fold_tracks _).bind fun _ => ?_
    cases operator <;> exact .pure _

theorem complement_tracks (negated : Bool) (set : CharSet) :
    Tracks (complement negated set) (complement negated set) :=
  (fold_tracks _).bind fun _ => (hasFlag_tracks _).bind fun _ =>
    .ite (.pure _) (.bind (.guard _) fun _ => .pure _)

theorem memberChar_tracks (c : Char) : Tracks (memberChar c) (memberChar c) :=
  (hasFlag_tracks _).bind fun _ => .bind (.guard _) fun _ => .pure _

theorem classAtom_tracks : Tracks classAtom classAtom := by
  refine .peek (fun c => ?_) .failure
  split
  · exact .failure
  · exact escape_tracks
  · exact bump_tracks.bind fun _ => .pure _

theorem classItem_tracks : Tracks classItem classItem := by
  refine classAtom_tracks.bind fun first => skipBlank_tracks.bind fun _ => ?_
  refine .peek (fun o => .bind (.lift o) fun next => ?_) (.of_fails fun _ => rfl)
  refine .peekSecond (fun _ => .ite ?single ?range) (.ite ?single ?range)
  case single =>
    cases first with
    | literal c _ => exact (memberChar_tracks c).bind fun _ => .pure _
    | set set => exact .pure _
    | look _ => exact .failure
  case range =>
    refine bumpBlank_tracks.bind fun _ => classAtom_tracks.bind fun last => ?_
    split
    · refine .bind (.guard _) fun _ => (memberChar_tracks _).bind fun _ => ?_
      exact (memberChar_tracks _).bind fun _ => .pure _
    · exact .failure

theorem takeDashes_eq (n : Nat) :
    takeDashes n = List.map (fun _ => { set := .single '-' }) <$> takeChars (· == '-') n := by
  induction n with
  | zero => rfl
  | succ n ih =>
    simp only [takeDashes, takeChars, ih, map_bind]
    refine bind_congr fun next => ?_
    cases next with
    | none => rfl
    | some c =>
      by_cases hc : c = '-'
      · subst hc
        simp
      · simp [hc]

theorem Tracks.takeDashes {β : Type} {f g : List SetPiece → Parser β}
    (h : ∀ dashes, Tracks (f dashes) (g dashes)) :
    Tracks (remaining >>= fun n => takeDashes n >>= f)
      (remaining >>= fun n => Pattern.takeDashes n >>= g) := by
  simp only [takeDashes_eq, bind_map_left]
  exact .takeChars (.inl rfl) fun _ => h _

theorem classOpen_tracks : Tracks classOpen classOpen := by
  have hmembers (negated : Bool) (dashes : List SetPiece) :
      let members : Parser (Bool × List SetPiece) := do
        if dashes.isEmpty && (← peek) == some ']' then
          bumpBlank
          return (negated, [{ set := .single ']' }])
        else return (negated, dashes)
      Tracks members members := by
    refine .peek (fun _ => .ite ?bracket (.pure _)) (.ite ?bracket (.pure _))
    exact bumpBlank_tracks.bind fun _ => .pure _
  refine bumpBlank_tracks.bind fun _ => .peek (fun _ => .ite ?_ ?_) ?_
  · exact bumpBlank_tracks.bind fun _ => .takeDashes (hmembers _)
  · exact .takeDashes (hmembers _)
  · exact Tracks.takeDashes (hmembers false)

theorem setOperator_tracks : Tracks setOperator setOperator := by
  refine (accept_tracks (by decide)).bind fun _ => .ite (.pure _) ?_
  refine (accept_tracks (by decide)).bind fun _ => .ite (.pure _) ?_
  exact (accept_tracks (by decide)).bind fun _ => .ite (.pure _) (.pure _)

theorem takeNegation_concat (rest : List Char) :
    takeNegation (rest ++ [')']) = ((takeNegation rest).1, (takeNegation rest).2 ++ [')']) := by
  cases rest with
  | nil => rfl
  | cons c rest =>
    by_cases hc : c = '^'
    · rw [hc]
      rfl
    · simp [takeNegation, hc]

/-- A run of characters up to `stop` ends in the pattern and ends there in both readings, or it
takes in all that is left of both. -/
theorem takeWhile_concat_cases (stop : Char) (hparen : (')' != stop) = true) (rest : List Char) :
    let name := rest.takeWhile (· != stop)
    let name' := (rest ++ [')']).takeWhile (· != stop)
    name' = name ∧ (rest ++ [')']).drop name.length = rest.drop name.length ++ [')'] ∨
      rest.drop name.length = [] ∧ (rest ++ [')']).drop name'.length = [] := by
  intro name name'
  by_cases hall : name.length = rest.length
  · have hone : [')'].takeWhile (· != stop) = [')'] := by
      rw [List.takeWhile_cons, hparen, List.takeWhile_nil]
      rfl
    have hname' : name' = rest ++ [')'] := by
      rw [← hone]
      exact List.takeWhile_append.trans (if_pos hall)
    exact .inr ⟨by rw [hall, List.drop_length], by rw [hname', List.drop_length]⟩
  · have hname' : name' = name := List.takeWhile_append.trans (if_neg hall)
    have hlength : name.length ≤ rest.length := (List.takeWhile_prefix _).length_le
    exact .inl ⟨hname', List.drop_append_of_le_length hlength⟩

theorem posixEnd_tracks (negated : Bool) (set? : Option CharSet) (rest : List Char) :
    let close (rest : List Char) : Parser (Option SetPiece) :=
      match rest, set? with
      | ':' :: ']' :: rest, some set => do
        modify fun s => { s with rest := rest }
        return some { set := ← complement negated set }
      | _, _ => return none
    Tracks (close rest) (close (rest ++ [')'])) := by
  intro close
  simp only [close]
  split
  · next tail set =>
    refine .bind (.modify fun alone within henclosed => ?_) fun _ => ?_
    · obtain rfl | ⟨rfl, _⟩ := henclosed
      · exact .inl rfl
      · exact .inl rfl
    · exact (complement_tracks _ _).bind fun _ => .pure _
  · next hother =>
    split
    · next tail set hrest =>
      have hclosed : [':', ']'] <+: rest ++ [')'] := ⟨tail, hrest.symm⟩
      obtain ⟨tail, htail⟩ := (prefix_concat_iff (by decide)).mp hclosed
      cases hother tail set htail.symm rfl
    · exact .pure _

theorem posixClass_tracks : Tracks posixClass posixClass := by
  refine .get fun alone within henclosed => ?_
  split
  · next rest hrest =>
    obtain rfl | ⟨rfl, hnil⟩ := henclosed
    · simp only [hrest, List.cons_append, takeNegation_concat]
      generalize takeNegation rest = opened
      obtain ⟨negated, rest⟩ := opened
      rcases takeWhile_concat_cases ':' rfl rest with ⟨hname, htail⟩ | ⟨hnil, hnil'⟩
      · simp only [hname, htail]
        exact posixEnd_tracks _ _ _
      · simp only [hnil, hnil']
        exact .pure _
    · cases hrest.symm.trans hnil
  · next hother =>
    split
    · next tail hwithin =>
      have hbefore : ['[', ':'] <+: within.rest := ⟨tail, hwithin.symm⟩
      obtain ⟨tail, htail⟩ := (henclosed.prefix_iff (by decide)).mp hbefore
      cases hother tail htail.symm
    · exact .pure _

theorem classBody_tracks {n n' : Nat} (hfuel : n ≤ n') (left : Option (SetOperator × SetPiece))
    (items : List SetPiece) : Tracks (classBody n left items) (classBody n' left items) := by
  induction n generalizing n' left items with
  | zero => exact .failure
  | succ n ih =>
    obtain ⟨n', rfl⟩ : ∃ m, n' = m + 1 := ⟨n' - 1, by omega⟩
    have ih := @ih n' (by omega)
    refine skipBlank_tracks.bind fun _ => .peek (fun c => ?_) .failure
    split
    · exact .failure
    · exact bump_tracks.bind fun _ => combine_tracks _ _
    · refine posixClass_tracks.bind fun item => ?_
      cases item with
      | some item => exact ih _ _
      | none =>
        refine classOpen_tracks.bind fun opened => (ih _ _).bind fun body => ?_
        exact (complement_tracks _ _).bind fun _ => ih _ _
    · refine setOperator_tracks.bind fun operator => ?_
      cases operator with
      | some operator => exact (combine_tracks _ _).bind fun _ => ih _ _
      | none => exact classItem_tracks.bind fun _ => ih _ _

theorem bracketClass_tracks : Tracks bracketClass bracketClass := by
  refine .remaining fun n n' hfuel => classOpen_tracks.bind fun opened => ?_
  exact (classBody_tracks hfuel _ _).bind fun _ => (complement_tracks _ _).bind fun _ => .pure _

/-! ## Single characters and assertions -/

theorem literal_tracks (c : Char) : Tracks (literal c) (literal c) :=
  (hasFlag_tracks _).bind fun _ =>
    .ite ((hasFlag_tracks _).bind fun _ => .ite (.pure _) (.pure _)) (.pure _)

theorem dot_tracks : Tracks dot dot :=
  (hasFlag_tracks _).bind fun _ => .bind (.guard _) fun _ => (hasFlag_tracks _).bind fun _ =>
    .ite (.pure _) ((hasFlag_tracks _).bind fun _ => .ite (.pure _) (.pure _))

theorem lineLook_tracks (plain line crlf : Look) :
    Tracks (lineLook plain line crlf) (lineLook plain line crlf) :=
  (hasFlag_tracks _).bind fun _ => .ite ((hasFlag_tracks _).bind fun _ => .pure _) (.pure _)

theorem primitive_tracks : Tracks primitive primitive := by
  refine .peek (fun c => ?_) .failure
  split
  · exact .failure
  · exact bump_tracks.bind fun _ => dot_tracks
  · exact bump_tracks.bind fun _ => lineLook_tracks _ _ _
  · exact bump_tracks.bind fun _ => lineLook_tracks _ _ _
  · refine escape_tracks.bind fun atom => ?_
    cases atom with
    | literal c byte =>
      exact (hasFlag_tracks _).bind fun _ => .bind (.guard _) fun _ => literal_tracks c
    | set set => exact .pure _
    | look kind => exact .pure _
  · exact bump_tracks.bind fun _ => literal_tracks _

/-! ## Groups -/

theorem flagChange_tracks {n n' : Nat} (hfuel : n ≤ n') (off : Bool) (seen : List Flag)
    (dangling : Bool) :
    Tracks (flagChange n off seen dangling) (flagChange n' off seen dangling) := by
  induction n generalizing n' off seen dangling with
  | zero => exact .failure
  | succ n ih =>
    obtain ⟨n', rfl⟩ : ∃ m, n' = m + 1 := ⟨n' - 1, by omega⟩
    have ih := @ih n' (by omega)
    refine .peek (fun c => ?_) .failure
    split
    · exact .failure
    · exact .bind (.guard _) fun _ => .pure _
    · exact .bind (.guard _) fun _ => .pure _
    · exact .bind (.guard _) fun _ => bump_tracks.bind fun _ => ih _ _ _
    · refine .bind (.lift _) fun flag => .bind (.guard _) fun _ => bump_tracks.bind fun _ => ?_
      exact (ih _ _ _).bind fun (_, _) => .pure _

theorem of_guard_bind {α : Type} {c : Prop} [Decidable c] {f : Unit → Parser α} {s : State}
    {found : α × State} (h : (guard c >>= f) s = some found) : f () s = some found := by
  obtain ⟨_, middle, hguard, hf⟩ := bind_eq_some_iff.mp h
  unfold guard at hguard
  split at hguard
  · cases hguard
    exact hf
  · cases hguard

theorem flagChange_rest_ne_nil {n : Nat} {off : Bool} {seen : List Flag} {dangling : Bool}
    {s s' : State} {found : List Flag × List Flag}
    (h : flagChange n off seen dangling s = some (found, s')) : s'.rest ≠ [] := by
  induction n generalizing off seen dangling s found with
  | zero => cases h
  | succ n ih =>
    rw [flagChange] at h
    obtain ⟨next, middle, hpeek, h⟩ := bind_eq_some_iff.mp h
    obtain ⟨hnext, rfl⟩ := Prod.mk.inj (Option.some.inj hpeek)
    have hmore (hsome : next ≠ none) : s.rest ≠ [] := by
      intro hrest
      exact hsome (hnext ▸ congrArg List.head? hrest)
    split at h
    · cases h
    · cases of_guard_bind h
      exact hmore nofun
    · cases of_guard_bind h
      exact hmore nofun
    · exact ih (of_guard_bind h)
    · obtain ⟨flag, _, _, h⟩ := bind_eq_some_iff.mp h
      obtain ⟨_, _, _, h⟩ := bind_eq_some_iff.mp (of_guard_bind h)
      obtain ⟨_, _, hrec, h⟩ := bind_eq_some_iff.mp h
      cases h
      exact ih hrec

theorem groupName_tracks : Tracks groupName groupName := by
  refine .get fun alone within henclosed => ?_
  obtain rfl | ⟨rfl, hrest⟩ := henclosed
  · rcases takeWhile_concat_cases '>' rfl alone.rest with ⟨hname, htail⟩ | ⟨hnil, _⟩
    · dsimp only
      rw [hname, htail]
      exact .bind (.guard _) fun _ => .bind (.set (.inl rfl)) fun _ => expect_tracks _
    · -- Without its closing mark the name is refused.
      dsimp only
      rw [hnil]
      refine .of_fails fun s => Option.eq_none_iff_forall_ne_some.mpr fun found h => ?_
      cases of_guard_bind h
  · refine .bind (.guard _) fun _ => .bind (.set (.inr ⟨rfl, ?_⟩)) fun _ => expect_tracks _
    simp [hrest]

theorem newCapture_tracks : Tracks newCapture newCapture := by
  refine .get fun alone within henclosed => ?_
  obtain rfl | ⟨rfl, hrest⟩ := henclosed
  · exact .bind (.set (.inl rfl)) fun _ => .pure _
  · exact .bind (.set (.inr ⟨rfl, hrest⟩)) fun _ => .pure _

theorem acceptNaming_tracks : Tracks acceptNaming acceptNaming :=
  (accept_tracks (by decide)).bind fun _ => .ite (.pure _) (accept_tracks (by decide))

theorem opening_tracks : Tracks opening opening := by
  unfold opening
  dsimp only
  refine bumpBlank_tracks.bind fun _ => .get fun alone within henclosed => ?_
  have hahead (text : List Char) (htext : ')' ∉ text)
      (halone : ∀ tail, alone.rest = text ++ tail → False) (tail : List Char) :
      within.rest ≠ text ++ tail := by
    intro hwithin
    obtain ⟨tail, htail⟩ := (henclosed.prefix_iff htext).mp ⟨tail, hwithin.symm⟩
    exact halone tail htail.symm
  -- Looking around is refused in the same places.
  split
  · exact .failure
  · exact .failure
  · exact .failure
  · exact .failure
  next h₁ h₂ h₃ h₄ =>
  split
  · next hwithin => cases hahead ['?', '='] (by decide) h₁ _ hwithin
  · next hwithin => cases hahead ['?', '!'] (by decide) h₂ _ hwithin
  · next hwithin => cases hahead ['?', '<', '='] (by decide) h₃ _ hwithin
  · next hwithin => cases hahead ['?', '<', '!'] (by decide) h₄ _ hwithin
  refine acceptNaming_tracks.bind fun _ => .ite ?_ ?_
  · exact newCapture_tracks.bind fun _ => groupName_tracks.bind fun _ => .pure _
  · refine (accept_tracks (by decide)).bind fun _ => .ite ?_ newCapture_tracks
    refine .remaining fun n n' hfuel => ?_
    -- Flags end before a mark of the pattern, so a parenthesis there is not the one around it.
    refine (flagChange_tracks hfuel _ _ _).bind_peek (fun _ _ _ => flagChange_rest_ne_nil) ?_
    intro found next
    refine .ite ?_ (bump_tracks.bind fun _ => .pure _)
    exact bump_tracks.bind fun _ => .bind (.guard _) fun _ => .pure _

/-! ## Repetitions -/

theorem bounds_tracks : Tracks bounds bounds := by
  have hnumber :
      let spaces : Parser Unit :=
        modify fun s => { s with rest := s.rest.dropWhile fun c => Unicode.isWhiteSpace c.toNat }
      let number : Parser Nat := do
        spaces
        let digits ← takeChars Char.isDigit (← remaining)
        spaces
        skipBlank
        decimal? digits
      Tracks number number := by
    refine .bind (.modify fun _ _ henclosed => henclosed.dropWhile rfl) fun _ => ?_
    refine .takeChars (.inl rfl) fun digits => ?_
    refine .bind (.modify fun _ _ henclosed => henclosed.dropWhile rfl) fun _ => ?_
    exact skipBlank_tracks.bind fun _ => .lift _
  refine bumpBlank_tracks.bind fun _ => hnumber.bind fun min => ?_
  refine .peek (fun _ => .ite ?_ (.pure _)) (.pure _)
  refine bumpBlank_tracks.bind fun _ => .peek (fun _ => .ite (.pure _) ?max) ?max
  exact hnumber.bind fun max => .bind (.guard _) fun _ => .pure _

theorem repetitionBounds_tracks : Tracks repetitionBounds repetitionBounds := by
  refine .peek (fun c => ?_) .failure
  split
  · exact bump_tracks.bind fun _ => .pure _
  · exact bump_tracks.bind fun _ => .pure _
  · exact bump_tracks.bind fun _ => .pure _
  · refine bounds_tracks.bind fun found => ?_
    refine .peek (fun _ => .bind (.guard _) fun _ => ?_) (.of_fails fun _ => rfl)
    exact bumpBlank_tracks.bind fun _ => .pure _
  · exact .failure

theorem repeated_tracks (item : Option Item) : Tracks (repeated item) (repeated item) := by
  unfold repeated
  split
  · exact .failure
  · exact .failure
  · refine repetitionBounds_tracks.bind fun found => ?_
    exact (accept_tracks (by decide)).bind fun _ => (hasFlag_tracks _).bind fun _ => .pure _

/-! ## Whole patterns -/

theorem setFlags_tracks (flags : Flags) :
    Tracks (modify fun s => { s with flags := flags })
      (modify fun s => { s with flags := flags }) :=
  .modify fun _ _ henclosed => henclosed.setFlags flags

theorem alternatives_tracks {n n' : Nat} (hfuel : n ≤ n') (branches : List Piece)
    (items : List Item) :
    Tracks (alternatives n branches items) (alternatives n' branches items) := by
  induction n generalizing n' branches items with
  | zero => exact .failure
  | succ n ih =>
    obtain ⟨n', rfl⟩ : ∃ m, n' = m + 1 := ⟨n' - 1, by omega⟩
    have ih := @ih n' (by omega)
    refine skipBlank_tracks.bind fun _ => .peek (fun c => ?_) (.pure _)
    split
    · exact .pure _
    · exact .pure _
    · exact bump_tracks.bind fun _ => ih _ _
    · exact (repeated_tracks _).bind fun _ => ih _ _
    · exact (repeated_tracks _).bind fun _ => ih _ _
    · exact (repeated_tracks _).bind fun _ => ih _ _
    · exact (repeated_tracks _).bind fun _ => ih _ _
    · exact bracketClass_tracks.bind fun _ => ih _ _
    · refine .get fun alone within henclosed => ?_
      rw [henclosed.flags_eq]
      refine opening_tracks.bind fun opened => ?_
      cases opened with
      | flags on off => exact (setFlags_tracks _).bind fun _ => ih _ _
      | plain on off =>
        refine (setFlags_tracks _).bind fun _ => (ih _ _).bind fun body => ?_
        exact (expect_tracks _).bind fun _ => (setFlags_tracks _).bind fun _ => ih _ _
      | capture index =>
        refine (ih _ _).bind fun body => (expect_tracks _).bind fun _ => ?_
        exact (setFlags_tracks _).bind fun _ => ih _ _
    · exact primitive_tracks.bind fun _ => ih _ _

theorem parse_eq_some {pattern : List Char} {regex : Regex} (h : parse pattern = some regex) :
    ∃ piece s, alternatives (pattern.length + 1) [] [] { rest := pattern } = some (piece, s) ∧
      s.rest = [] ∧ piece.regex = regex := by
  unfold parse at h
  split at h
  · next piece s hrun =>
    split at h
    · next hfits =>
      cases h
      exact ⟨piece, s, hrun, by simp_all, rfl⟩
    · cases h
  · cases h

theorem alternatives_anchored (n : Nat) (rest : List Char) :
    alternatives (n + 2) [] [] { rest := '^' :: '(' :: '?' :: ':' :: rest } =
      (do
        let body ← alternatives n [] []
        expect ')'
        modify fun s => { s with flags := {} }
        alternatives n [] [.piece { regex := .look .textStart },
          .piece ⟨body.regex, body.depth + 1⟩] : Parser Piece) { rest := rest } := rfl

/-- A pattern that is put into a group after an anchor is read as the anchor and the pattern. The
group may still be refused: it nests deeper, and a comment in the pattern may hide its end. -/
theorem parse_anchored {pattern : List Char} {whole regex : Regex}
    (hwhole : parse pattern = some whole)
    (hregex : parse ("^(?:".toList ++ pattern ++ [')']) = some regex) :
    regex = .choice [.sequence [.look .textStart, whole]] := by
  obtain ⟨body, alone, halone, hend, rfl⟩ := parse_eq_some hwhole
  obtain ⟨piece, last, hrun, hlast, rfl⟩ := parse_eq_some hregex
  have hlength : ("^(?:".toList ++ pattern ++ [')']).length + 1 = pattern.length + 4 + 2 := by simp
  rw [hlength] at hrun
  obtain ⟨body', within, hbody', hrun⟩ :=
    bind_eq_some_iff.mp ((alternatives_anchored _ (pattern ++ [')'])).symm.trans hrun)
  have hfuel : pattern.length + 1 ≤ pattern.length + 4 := by omega
  obtain ⟨_, hbody, henclosed⟩ := alternatives_tracks hfuel [] [] { rest := pattern }
    { rest := pattern ++ [')'] } (.inl rfl) body alone halone
  cases hbody'.symm.trans hbody
  obtain ⟨_, closed, hclose, hrun⟩ := bind_eq_some_iff.mp hrun
  obtain ⟨rest, flags, groups, names⟩ := alone
  cases hend
  obtain rfl | ⟨rfl, _⟩ := henclosed
  · cases hclose
    cases hrun
    rfl
  · cases hclose

end TextGrammar.Pattern
