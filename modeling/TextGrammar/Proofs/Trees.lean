import TextGrammar.Proofs.Lossless
import TextGrammar.Proofs.QuotedText
import TextGrammar.Proofs.Readers
import TextGrammar.Report.Tree
/-!
# Trees tell values

The tree of a value is made of lines, and only their indentation shows what belongs to what. What is
rendered at an indentation goes on exactly as long as the lines are indented as far, so the text can
be cut into the parts of the value again.
-/
namespace TextGrammar

/-! ## Identifiers -/

def isNameStart (c : Char) : Bool := c == '_' || Unicode.isAlphabetic c.toNat

def isNameChar (c : Char) : Bool := c == '_' || Unicode.isAlphanumeric c.toNat

def isIdentifier (name : String) : Bool :=
  match name.toList with
  | [] => false
  | c :: rest => isNameStart c && rest.all isNameChar

theorem isNameChar_of_isNameStart {c : Char} (h : isNameStart c = true) : isNameChar c = true := by
  simp only [isNameStart, isNameChar, Unicode.isAlphanumeric, Bool.or_eq_true] at h ⊢
  rcases h with h | h
  · exact .inl h
  · exact .inr (.inl h)

theorem isIdentifier_cases {name : String} (h : isIdentifier name = true) :
    ∃ c rest, name.toList = c :: rest ∧ isNameStart c = true ∧
      ∀ d ∈ name.toList, isNameChar d = true := by
  unfold isIdentifier at h
  split at h
  · cases h
  · next c rest hname =>
    obtain ⟨hstart, hrest⟩ := Bool.and_eq_true_iff.mp h
    refine ⟨c, rest, hname, hstart, ?_⟩
    intro d hd
    rw [hname] at hd
    rcases List.mem_cons.mp hd with hd | hd
    · rw [hd]
      exact isNameChar_of_isNameStart hstart
    · exact List.all_eq_true.mp hrest d hd

theorem ne_of_isNameChar {c other : Char} (h : isNameChar c = true)
    (hother : isNameChar other = false) : c ≠ other := by
  intro heq
  rw [heq, hother] at h
  cases h

/-- The key of the kind stands before all identifiers. -/
theorem kind_lt_of_isIdentifier {name : String} (h : isIdentifier name = true) :
    "$kind" < name := by
  obtain ⟨c, rest, hname, hstart, _⟩ := isIdentifier_cases h
  have hascii : ∀ n < 128, isNameStart (Char.ofNat n) = true → 36 < n := by decide +kernel
  have hlt : '$' < c := by
    show 36 < c.toNat
    by_cases hc : c.toNat < 128
    · apply hascii c.toNat hc
      rwa [Char.ofNat_toNat]
    · omega
  have hkind : "$kind".toList = '$' :: "kind".toList := by rfl
  rw [String.lt_iff, hname, hkind, List.cons_lt_cons_iff]
  exact .inl hlt

/-- Texts, sequences and records, where kinds and attributes have identifiers as names and the
attributes of records stand in the order of their names. -/
inductive Value.IsIdentified : Value → Prop
  | text {content} : IsIdentified (.text content)
  | sequence {items} : (∀ item ∈ items, IsIdentified item) → IsIdentified (.sequence items)
  | record {kind attributes} : isIdentifier kind = true → NameMap.IsSorted attributes →
    (∀ entry ∈ attributes, isIdentifier entry.1 = true) →
    (∀ entry ∈ attributes, IsIdentified entry.2) →
    IsIdentified (.object kind .record attributes)

/-! ## Lines -/

theorem append_inj_of_stop {fits : Char → Bool} {first first' rest rest' : List Char}
    (hfirst : ∀ c ∈ first, fits c = true) (hfirst' : ∀ c ∈ first', fits c = true)
    (hrest : ∀ c ∈ rest.head?, fits c = false) (hrest' : ∀ c ∈ rest'.head?, fits c = false)
    (h : first ++ rest = first' ++ rest') : first = first' ∧ rest = rest' := by
  have hread := Reader.takeWhile_append hfirst hrest
  have hread' := Reader.takeWhile_append hfirst' hrest'
  rw [h, hread'] at hread
  simpa [eq_comm] using hread

/-- What follows a part that is rendered at the indentation: nothing, or a line that is indented
less. -/
def Leaves (indent : Nat) (rest : List Char) : Prop :=
  rest = [] ∨ ∃ blanks c further, blanks < 2 * indent ∧ c ≠ ' ' ∧
    rest = '\n' :: (List.replicate blanks ' ' ++ c :: further)

theorem Leaves.succ {indent : Nat} {rest : List Char} (h : Leaves indent rest) :
    Leaves (indent + 1) rest := by
  rcases h with h | ⟨blanks, c, further, hblanks, hc, h⟩
  · exact .inl h
  · exact .inr ⟨blanks, c, further, by omega, hc, h⟩

theorem Leaves.not_isNameChar {indent : Nat} {rest : List Char} (h : Leaves indent rest) :
    ∀ c ∈ rest.head?, isNameChar c = false := by
  intro c hc
  rcases h with h | ⟨blanks, d, further, _, _, h⟩
  · rw [h] at hc
    cases hc
  · rw [h] at hc
    cases hc
    decide

theorem Leaves.ne_line {indent : Nat} {rest : List Char} (h : Leaves indent rest) {c : Char}
    (hc : c ≠ ' ') (further : List Char) :
    rest ≠ '\n' :: (List.replicate (2 * indent) ' ' ++ c :: further) := by
  intro hline
  rcases h with h | ⟨blanks, d, further', hblanks, hd, h⟩
  · rw [h] at hline
    cases hline
  · rw [h, List.cons.injEq] at hline
    have hblank (count : Nat) : ∀ e ∈ List.replicate count ' ', (e == ' ') = true := by
      intro e he
      simp [List.eq_of_mem_replicate he]
    have hsame := append_inj_of_stop (hblank blanks) (hblank (2 * indent)) (by simpa using hd)
      (by simpa using hc) hline.2
    have hlength := congrArg List.length hsame.1
    rw [List.length_replicate, List.length_replicate] at hlength
    omega

/-- Of two things that are written down, the texts tell whether they are the same and where they
end, provided that what follows leaves the indentation. -/
def Tells {α : Type} (indent : Nat) (write : α → List Char) (thing thing' : α) : Prop :=
  ∀ ⦃rest rest'⦄, Leaves indent rest → Leaves indent rest' →
    write thing ++ rest = write thing' ++ rest' → thing = thing' ∧ rest = rest'

def StartsLine (text : List Char) : Prop := ∃ c rest, text = c :: rest ∧ c ≠ ' '

def linesOf {α : Type} (indent : Nat) (line : α → List Char) (entries : List α) : List Char :=
  entries.flatMap fun entry => '\n' :: (List.replicate (2 * indent) ' ' ++ line entry)

section

variable {α : Type} {indent : Nat} {line : α → List Char} {entries entries' : List α}
  {rest : List Char}

theorem linesOf_cons (indent : Nat) (line : α → List Char) (entry : α) (entries : List α) :
    linesOf indent line (entry :: entries) =
      '\n' :: (List.replicate (2 * indent) ' ' ++ (line entry ++ linesOf indent line entries)) := by
  simp [linesOf]

theorem Leaves.linesOf (hrest : Leaves indent rest)
    (hline : ∀ entry ∈ entries, StartsLine (line entry)) :
    Leaves (indent + 1) (linesOf indent line entries ++ rest) := by
  cases entries with
  | nil => exact hrest.succ
  | cons entry entries =>
    obtain ⟨c, further, hentry, hc⟩ := hline entry List.mem_cons_self
    refine .inr ⟨2 * indent, c, further ++ (TextGrammar.linesOf indent line entries ++ rest),
      by omega, hc, ?_⟩
    simp [linesOf_cons, hentry]

theorem Leaves.ne_linesOf (hrest : Leaves indent rest) {entry : α}
    (hline : StartsLine (line entry)) (entries : List α) (further : List Char) :
    rest ≠ TextGrammar.linesOf indent line (entry :: entries) ++ further := by
  obtain ⟨c, text, hentry, hc⟩ := hline
  have hne := hrest.ne_line hc (text ++ (TextGrammar.linesOf indent line entries ++ further))
  simpa [linesOf_cons, hentry] using hne

theorem tells_linesOf (hline : ∀ entry ∈ entries, StartsLine (line entry))
    (hline' : ∀ entry ∈ entries', StartsLine (line entry))
    (htells : ∀ entry ∈ entries, ∀ entry' ∈ entries', Tells (indent + 1) line entry entry') :
    Tells indent (linesOf indent line) entries entries' := by
  intro rest rest' hrest hrest' h
  induction entries generalizing entries' with
  | nil =>
    cases entries' with
    | nil => exact ⟨rfl, h⟩
    | cons entry' entries' =>
      exact absurd h (hrest.ne_linesOf (hline' entry' List.mem_cons_self) entries' rest')
  | cons entry entries ih =>
    cases entries' with
    | nil =>
      exact absurd h.symm (hrest'.ne_linesOf (hline entry List.mem_cons_self) entries rest)
    | cons entry' entries' =>
      -- What stands after the first line leaves its contents: further lines, or the rest.
      obtain ⟨_, hlines⟩ := List.forall_mem_cons.mp hline
      obtain ⟨_, hlines'⟩ := List.forall_mem_cons.mp hline'
      have hfirst : line entry ++ (linesOf indent line entries ++ rest) =
          line entry' ++ (linesOf indent line entries' ++ rest') := by
        simpa [linesOf_cons] using h
      obtain ⟨hentry, hfurther⟩ := htells entry List.mem_cons_self entry' List.mem_cons_self
        (hrest.linesOf hlines) (hrest'.linesOf hlines') hfirst
      have htells' : ∀ other ∈ entries, ∀ other' ∈ entries',
          Tells (indent + 1) line other other' := by
        intro other hother other' hother'
        exact htells other (List.mem_cons_of_mem _ hother) other' (List.mem_cons_of_mem _ hother')
      obtain ⟨hentries, hrests⟩ := ih hlines hlines' htells' hfurther
      exact ⟨by rw [hentry, hentries], hrests⟩

end

/-! ## Rendered values -/

namespace Tree

theorem toList_margin (indent : Nat) :
    (margin indent).toList = List.replicate (2 * indent) ' ' := by
  have hpush (count : Nat) : ("".pushn ' ' count).toList = List.replicate count ' ' := by
    rw [String.pushn_eq_repeat_push]
    induction count with
    | zero => rfl
    | succ count ih => rw [Nat.repeat, String.toList_push, ih, List.replicate_succ']
  exact hpush (2 * indent)

def charsOf (indent : Nat) (value : Value) : List Char := (render indent value.toDocument).toList

def itemLine (indent : Nat) (item : Value) : List Char := '-' :: ' ' :: charsOf (indent + 1) item

def attributeLine (indent : Nat) (entry : String × Value) : List Char :=
  entry.1.toList ++ ':' ::
    ((gap (render (indent + 1) entry.2.toDocument)).toList ++ charsOf (indent + 1) entry.2)

theorem charsOf_text (indent : Nat) (content : String) :
    charsOf indent (.text content) = (Quoted.encode content).toList := by
  rw [charsOf, Value.toDocument, render]

theorem charsOf_nil (indent : Nat) : charsOf indent (.sequence []) = ['[', ']'] := by
  rw [charsOf, Value.toDocument, itemDocuments, render]
  rfl

theorem toList_renderItems (indent : Nat) (items : List Value) :
    (renderItems indent (itemDocuments items)).toList = linesOf indent (itemLine indent) items := by
  induction items with
  | nil => rw [itemDocuments, renderItems]; rfl
  | cons item items ih =>
    rw [itemDocuments, renderItems, linesOf_cons, ← ih]
    simp [String.toList_append, toList_margin, itemLine, charsOf]

theorem charsOf_cons (indent : Nat) (item : Value) (items : List Value) :
    charsOf indent (.sequence (item :: items)) =
      linesOf indent (itemLine indent) (item :: items) := by
  rw [charsOf, Value.toDocument, ← toList_renderItems, itemDocuments, render]
  simp

theorem toList_renderMembers (indent : Nat) {attributes : List (String × Value)}
    (hnames : ∀ entry ∈ attributes, entry.1 ≠ "$kind") :
    (renderMembers indent (attributeDocuments attributes)).toList =
      linesOf indent (attributeLine indent) attributes := by
  induction attributes with
  | nil => rw [attributeDocuments, renderMembers]; rfl
  | cons entry attributes ih =>
    obtain ⟨hname, hnames⟩ := List.forall_mem_cons.mp hnames
    rw [attributeDocuments, renderMembers, if_neg hname, linesOf_cons, ← ih hnames]
    simp [String.toList_append, toList_margin, attributeLine, charsOf]

theorem objectMembers_eq_cons (kind : String) {bound : NameMap Document} (hsorted : bound.IsSorted)
    (hnames : ∀ entry ∈ bound, "$kind" < entry.1) :
    objectMembers kind .record bound = ("$kind", .string kind) :: bound :=
  show NameMap.insertAll [("$kind", .string kind)] bound = [("$kind", .string kind)] ++ bound from
    NameMap.insertAll_eq_append (List.pairwise_cons.mpr ⟨hnames, hsorted⟩)

theorem charsOf_record (indent : Nat) (kind : String) {attributes : NameMap Value}
    (hsorted : attributes.IsSorted) (hnames : ∀ entry ∈ attributes, isIdentifier entry.1 = true) :
    charsOf indent (.object kind .record attributes) =
      kind.toList ++ linesOf indent (attributeLine indent) attributes := by
  have hlt : ∀ entry ∈ attributes, "$kind" < entry.1 := by
    intro entry hentry
    exact kind_lt_of_isIdentifier (hnames entry hentry)
  have hne : ∀ entry ∈ attributes, entry.1 ≠ "$kind" := by
    intro entry hentry heq
    exact String.lt_irrefl _ (heq ▸ hlt entry hentry)
  have hbound : ∀ entry ∈ attributeDocuments attributes, "$kind" < entry.1 := by
    intro entry hentry
    rw [attributeDocuments_eq_map] at hentry
    obtain ⟨source, hsource, rfl⟩ := List.mem_map.mp hentry
    exact hlt source hsource
  rw [charsOf, Value.toDocument,
    objectMembers_eq_cons kind (isSorted_attributeDocuments hsorted) hbound, render, renderMembers,
    if_pos rfl, String.toList_append, toList_renderMembers indent hne]
  simp [heading]

/-! ## What a tree starts with -/

inductive Opening where
  | text
  | nothing
  | items
  | record
deriving DecidableEq

def Opening.ofChar (c : Char) : Opening :=
  if c = '"' then .text else if c = '[' then .nothing else if c = '\n' then .items else .record

def opening : Value → Opening
  | .text _ => .text
  | .sequence [] => .nothing
  | .sequence (_ :: _) => .items
  | .object .. => .record

theorem exists_charsOf_eq {value : Value} (h : value.IsIdentified) (indent : Nat) :
    ∃ c rest, charsOf indent value = c :: rest ∧ Opening.ofChar c = opening value := by
  cases h with
  | @text content =>
    rw [charsOf_text, Quoted.encode, String.toList_ofList]
    exact ⟨'"', _, rfl, rfl⟩
  | @sequence items _ =>
    cases items with
    | nil => exact ⟨'[', _, charsOf_nil indent, rfl⟩
    | cons item items =>
      rw [charsOf_cons, linesOf_cons]
      exact ⟨'\n', _, rfl, rfl⟩
  | @record kind attributes hkind hsorted hnames _ =>
    obtain ⟨c, rest, hchars, hstart, _⟩ := isIdentifier_cases hkind
    have hc := isNameChar_of_isNameStart hstart
    rw [charsOf_record indent kind hsorted hnames, hchars]
    refine ⟨c, _, rfl, ?_⟩
    have hquote := ne_of_isNameChar hc (show isNameChar '"' = false by decide)
    have hbracket := ne_of_isNameChar hc (show isNameChar '[' = false by decide)
    have hline := ne_of_isNameChar hc (show isNameChar '\n' = false by decide)
    simp [Opening.ofChar, opening, hquote, hbracket, hline]

theorem tells_of_opening_ne {value value' : Value} (h : value.IsIdentified)
    (h' : value'.IsIdentified) (hne : opening value ≠ opening value') {indent : Nat} :
    Tells indent (charsOf indent) value value' := by
  intro rest rest' _ _ heq
  obtain ⟨c, further, hchars, hopening⟩ := exists_charsOf_eq h indent
  obtain ⟨c', further', hchars', hopening'⟩ := exists_charsOf_eq h' indent
  rw [hchars, hchars', List.cons_append, List.cons_append, List.cons.injEq] at heq
  rw [← hopening, ← hopening', heq.1] at hne
  exact absurd rfl hne

/-! ## Trees are read in one way -/

theorem gap_append_injective {value value' : Value} (h : value.IsIdentified)
    (h' : value'.IsIdentified) {indent : Nat} {rest rest' : List Char}
    (heq : (gap (render indent value.toDocument)).toList ++ (charsOf indent value ++ rest) =
      (gap (render indent value'.toDocument)).toList ++ (charsOf indent value' ++ rest')) :
    charsOf indent value ++ rest = charsOf indent value' ++ rest' := by
  obtain ⟨c, further, hchars, _⟩ := exists_charsOf_eq h indent
  obtain ⟨c', further', hchars', _⟩ := exists_charsOf_eq h' indent
  have hgap : gap (render indent value.toDocument) = if c = '\n' then "" else " " := by
    simp [gap, show (render indent value.toDocument).toList = c :: further from hchars]
  have hgap' : gap (render indent value'.toDocument) = if c' = '\n' then "" else " " := by
    simp [gap, show (render indent value'.toDocument).toList = c' :: further' from hchars']
  rw [hgap, hgap', hchars, hchars'] at heq
  rw [hchars, hchars']
  by_cases hc : c = '\n'
  · by_cases hc' : c' = '\n'
    · simpa [hc, hc'] using heq
    · simp [hc, hc'] at heq
  · by_cases hc' : c' = '\n'
    · simp [hc, hc'] at heq
    · simpa [hc, hc'] using heq

theorem startsLine_itemLine (indent : Nat) (item : Value) : StartsLine (itemLine indent item) :=
  ⟨'-', _, rfl, by decide⟩

theorem startsLine_attributeLine (indent : Nat) {entry : String × Value}
    (hname : isIdentifier entry.1 = true) : StartsLine (attributeLine indent entry) := by
  obtain ⟨c, rest, hchars, hstart, _⟩ := isIdentifier_cases hname
  have hblank : isNameChar ' ' = false := by decide
  rw [attributeLine, hchars]
  exact ⟨c, _, rfl, ne_of_isNameChar (isNameChar_of_isNameStart hstart) hblank⟩

theorem tells_itemLine {indent : Nat} {item item' : Value}
    (h : Tells (indent + 1) (charsOf (indent + 1)) item item') :
    Tells (indent + 1) (itemLine indent) item item' := by
  intro rest rest' hrest hrest' heq
  simp only [itemLine, List.cons_append, List.cons.injEq, true_and] at heq
  exact h hrest hrest' heq

theorem tells_attributeLine {indent : Nat} {entry entry' : String × Value}
    (hname : isIdentifier entry.1 = true) (hname' : isIdentifier entry'.1 = true)
    (hvalue : entry.2.IsIdentified) (hvalue' : entry'.2.IsIdentified)
    (h : Tells (indent + 1) (charsOf (indent + 1)) entry.2 entry'.2) :
    Tells (indent + 1) (attributeLine indent) entry entry' := by
  intro rest rest' hrest hrest' heq
  obtain ⟨_, _, _, _, hchars⟩ := isIdentifier_cases hname
  obtain ⟨_, _, _, _, hchars'⟩ := isIdentifier_cases hname'
  have hcolon : isNameChar ':' = false := by decide
  simp only [attributeLine, List.append_assoc, List.cons_append] at heq
  obtain ⟨hnames, hbodies⟩ := append_inj_of_stop hchars hchars' (by simp [hcolon])
    (by simp [hcolon]) heq
  rw [List.cons.injEq] at hbodies
  obtain ⟨hvalues, hrests⟩ := h hrest hrest' (gap_append_injective hvalue hvalue' hbodies.2)
  exact ⟨Prod.ext (String.toList_inj.mp hnames) hvalues, hrests⟩

theorem tells_sequence {indent : Nat} {items items' : List Value}
    (hitems : ∀ item ∈ items, item.IsIdentified) (hitems' : ∀ item ∈ items', item.IsIdentified)
    (h : ∀ item ∈ items, ∀ item' ∈ items', Tells (indent + 1) (charsOf (indent + 1)) item item') :
    Tells indent (charsOf indent) (.sequence items) (.sequence items') := by
  cases items with
  | nil =>
    cases items' with
    | nil =>
      intro rest rest' _ _ heq
      exact ⟨rfl, List.append_cancel_left heq⟩
    | cons =>
      apply tells_of_opening_ne (.sequence hitems) (.sequence hitems')
      simp [opening]
  | cons item items =>
    cases items' with
    | nil =>
      apply tells_of_opening_ne (.sequence hitems) (.sequence hitems')
      simp [opening]
    | cons item' items' =>
      intro rest rest' hrest hrest' heq
      have hlines := tells_linesOf (fun item _ => startsLine_itemLine indent item)
        (fun item _ => startsLine_itemLine indent item)
        (fun item hitem item' hitem' => tells_itemLine (h item hitem item' hitem'))
      rw [charsOf_cons, charsOf_cons] at heq
      obtain ⟨hsame, hrests⟩ := hlines hrest hrest' heq
      exact ⟨by rw [hsame], hrests⟩

theorem tells_record {indent : Nat} {kind kind' : String} {attributes attributes' : NameMap Value}
    (hkind : isIdentifier kind = true) (hkind' : isIdentifier kind' = true)
    (hsorted : attributes.IsSorted) (hsorted' : attributes'.IsSorted)
    (hnames : ∀ entry ∈ attributes, isIdentifier entry.1 = true)
    (hnames' : ∀ entry ∈ attributes', isIdentifier entry.1 = true)
    (hvalues : ∀ entry ∈ attributes, entry.2.IsIdentified)
    (hvalues' : ∀ entry ∈ attributes', entry.2.IsIdentified)
    (h : ∀ entry ∈ attributes, ∀ entry' ∈ attributes',
      Tells (indent + 1) (charsOf (indent + 1)) entry.2 entry'.2) :
    Tells indent (charsOf indent) (.object kind .record attributes)
      (.object kind' .record attributes') := by
  intro rest rest' hrest hrest' heq
  obtain ⟨_, _, _, _, hchars⟩ := isIdentifier_cases hkind
  obtain ⟨_, _, _, _, hchars'⟩ := isIdentifier_cases hkind'
  have hstart : ∀ entry ∈ attributes, StartsLine (attributeLine indent entry) :=
    fun entry hentry => startsLine_attributeLine indent (hnames entry hentry)
  have hstart' : ∀ entry ∈ attributes', StartsLine (attributeLine indent entry) :=
    fun entry hentry => startsLine_attributeLine indent (hnames' entry hentry)
  -- The kind ends where the first line or the rest begins.
  rw [charsOf_record indent kind hsorted hnames, charsOf_record indent kind' hsorted' hnames',
    List.append_assoc, List.append_assoc] at heq
  obtain ⟨hkinds, hlines⟩ := append_inj_of_stop hchars hchars' (hrest.linesOf hstart).not_isNameChar
    (hrest'.linesOf hstart').not_isNameChar heq
  have htells := tells_linesOf hstart hstart' fun entry hentry entry' hentry' =>
    tells_attributeLine (hnames entry hentry) (hnames' entry' hentry') (hvalues entry hentry)
      (hvalues' entry' hentry') (h entry hentry entry' hentry')
  obtain ⟨hsame, hrests⟩ := htells hrest hrest' hlines
  exact ⟨by rw [String.toList_inj.mp hkinds, hsame], hrests⟩

/-- A rendered value can be cut off from what follows it in one way only. -/
theorem tells_charsOf {value value' : Value} (h : value.IsIdentified) (h' : value'.IsIdentified)
    (indent : Nat) : Tells indent (charsOf indent) value value' := by
  -- Parts are rendered further in than the whole, so the induction is for every indentation.
  induction h generalizing value' indent with
  | @text content =>
    cases h' with
    | @text content' =>
      intro rest rest' _ _ heq
      rw [charsOf_text, charsOf_text] at heq
      obtain ⟨hcontent, hrests⟩ := Quoted.encode_append_injective heq
      exact ⟨by rw [hcontent], hrests⟩
    | @sequence items' hitems' =>
      apply tells_of_opening_ne .text (.sequence hitems')
      cases items' <;> simp [opening]
    | record hkind' hsorted' hnames' hvalues' =>
      apply tells_of_opening_ne .text (.record hkind' hsorted' hnames' hvalues')
      simp [opening]
  | @sequence items hitems ih =>
    cases h' with
    | text =>
      apply tells_of_opening_ne (.sequence hitems) .text
      cases items <;> simp [opening]
    | @sequence items' hitems' =>
      apply tells_sequence hitems hitems'
      intro item hitem item' hitem'
      exact ih item hitem (hitems' item' hitem') (indent + 1)
    | record hkind' hsorted' hnames' hvalues' =>
      apply tells_of_opening_ne (.sequence hitems) (.record hkind' hsorted' hnames' hvalues')
      cases items <;> simp [opening]
  | @record kind attributes hkind hsorted hnames hvalues ih =>
    cases h' with
    | text =>
      apply tells_of_opening_ne (.record hkind hsorted hnames hvalues) .text
      simp [opening]
    | @sequence items' hitems' =>
      apply tells_of_opening_ne (.record hkind hsorted hnames hvalues) (.sequence hitems')
      cases items' <;> simp [opening]
    | @record kind' attributes' hkind' hsorted' hnames' hvalues' =>
      apply tells_record hkind hkind' hsorted hsorted' hnames hnames' hvalues hvalues'
      intro entry hentry entry' hentry'
      exact ih entry hentry (hvalues' entry' hentry') (indent + 1)

end Tree

/-- The tree of a value tells the value, at any indentation. Values whose kinds and attributes are
named by identifiers have the same tree only if they are the same, whatever texts they hold. -/
theorem tree_tells_value (indent : Nat) (value value' : Value) (h : value.IsIdentified)
    (h' : value'.IsIdentified)
    (heq : Tree.render indent value.toDocument = Tree.render indent value'.toDocument) :
    value = value' := by
  have hchars : Tree.charsOf indent value ++ [] = Tree.charsOf indent value' ++ [] := by
    rw [Tree.charsOf, Tree.charsOf, heq]
  exact (Tree.tells_charsOf h h' indent (.inl rfl) (.inl rfl) hchars).1

theorem tree_tells_value_sequences :
    let list (items : List Value) : Value :=
      .object "list" .record [("items", .sequence items), ("kind", .text "b")]
    let bound : Value := .object "list" .record (NameMap.ofList
      [("kind", .text "b"), ("items", .sequence [.sequence [.text "a"], .text "b"])])
    let apart := list [.sequence [.text "a"], .text "b"]
    let within := list [.sequence [.text "a", .text "b"]]
    bound.IsIdentified ∧ apart.IsIdentified ∧ within.IsIdentified ∧
      Tree.render 1 bound.toDocument = Tree.render 1 apart.toDocument ∧ bound = apart ∧
      Tree.render 1 apart.toDocument ≠ Tree.render 1 within.toDocument := by
  intro list bound apart within
  have hitemsName : isIdentifier "items" = true := by decide +kernel
  have hkindName : isIdentifier "kind" = true := by decide +kernel
  have hlist (items : List Value) (hitems : ∀ item ∈ items, item.IsIdentified) :
      (list items).IsIdentified := by
    refine .record (by decide +kernel) ?_ ?_ ?_
    · exact List.pairwise_pair.mpr (show "items" < "kind" by decide)
    · exact List.forall_mem_cons.mpr ⟨hitemsName, List.forall_mem_singleton.mpr hkindName⟩
    · exact List.forall_mem_cons.mpr ⟨.sequence hitems, List.forall_mem_singleton.mpr .text⟩
  have htexts (texts : List String) : ∀ item ∈ texts.map Value.text, item.IsIdentified := by
    intro item hitem
    obtain ⟨content, _, rfl⟩ := List.mem_map.mp hitem
    exact .text
  have hapart : apart.IsIdentified :=
    hlist _ (List.forall_mem_cons.mpr ⟨.sequence (htexts ["a"]), htexts ["b"]⟩)
  have hwithin : within.IsIdentified :=
    hlist _ (List.forall_mem_singleton.mpr (.sequence (htexts ["a", "b"])))
  have hbound : bound.IsIdentified := hapart
  have hsame : Tree.render 1 bound.toDocument = Tree.render 1 apart.toDocument := by rfl
  refine ⟨hbound, hapart, hwithin, hsame, tree_tells_value 1 bound apart hbound hapart hsame, ?_⟩
  intro h
  have heq := tree_tells_value 1 apart within hapart hwithin h
  simp [apart, within, list] at heq

end TextGrammar
