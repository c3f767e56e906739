import Mathlib.Data.Prod.Lex
import Mathlib.Order.Bounds.Defs
import TextGrammar.Proofs.Cursor
/-!
# Locations follow the text

A location is found by counting the lines of a text and the characters of its last line. Passing
the characters one at a time leads to the same location, and every character leads to a later one.
So locations keep the order of the character boundaries and tell them apart.
-/
namespace TextGrammar

/-- Within some bytes stand exactly the prefixes of the text that are no longer. -/
theorem isPrefix_takeBytes_iff {bytes : Nat} {before text : List Char} :
    before <+: takeBytes bytes text ↔ before <+: text ∧ byteLength before ≤ bytes := by
  induction text generalizing bytes before with
  | nil =>
    simp only [takeBytes, List.prefix_nil, iff_self_and]
    rintro rfl
    simp
  | cons c text ih =>
    cases before with
    | nil => simp
    | cons d before =>
      simp only [takeBytes, List.cons_prefix_cons, byteLength_cons]
      split
      · next hfits =>
        rw [List.cons_prefix_cons, ih]
        constructor
        · rintro ⟨rfl, hbefore, hbytes⟩
          exact ⟨⟨rfl, hbefore⟩, by omega⟩
        · rintro ⟨⟨rfl, hbefore⟩, hbytes⟩
          exact ⟨rfl, hbefore, by omega⟩
      · next hfits =>
        simp only [List.prefix_nil, reduceCtorEq, false_iff, not_and]
        rintro ⟨rfl, _⟩
        omega

theorem takeBytes_isPrefix (bytes : Nat) (text : List Char) : takeBytes bytes text <+: text :=
  (isPrefix_takeBytes_iff.mp (List.prefix_refl _)).1

theorem byteLength_takeBytes_le (bytes : Nat) (text : List Char) :
    byteLength (takeBytes bytes text) ≤ bytes :=
  (isPrefix_takeBytes_iff.mp (List.prefix_refl _)).2

theorem takeBytes_byteLength {before text : List Char} (h : before <+: text) :
    takeBytes (byteLength before) text = before := by
  obtain ⟨more, hmore⟩ := isPrefix_takeBytes_iff.mpr ⟨h, Nat.le_refl _⟩
  have hle := byteLength_takeBytes_le (byteLength before) text
  rw [← hmore, byteLength_append] at hle
  have hnil : more = [] := byteLength_eq_zero_iff.mp (by omega)
  rw [← hmore, hnil, List.append_nil]

theorem isBoundary_iff_isPrefix {text : List Char} {offset : Nat} :
    IsBoundary text offset ↔ ∃ before, before <+: text ∧ byteLength before = offset := by
  constructor
  · rintro ⟨before, rest, rfl, rfl⟩
    exact ⟨before, List.prefix_append before rest, rfl⟩
  · rintro ⟨before, ⟨rest, rfl⟩, rfl⟩
    exact ⟨before, rest, rfl, rfl⟩

theorem byteLength_takeBytes_isGreatest (text : List Char) (bytes : Nat) :
    IsGreatest {boundary | IsBoundary text boundary ∧ boundary ≤ min bytes (byteLength text)}
      (byteLength (takeBytes bytes text)) := by
  have hboundary : IsBoundary text (byteLength (takeBytes bytes text)) :=
    isBoundary_iff_isPrefix.mpr ⟨_, takeBytes_isPrefix bytes text, rfl⟩
  constructor
  · exact ⟨hboundary, Nat.le_min.mpr ⟨byteLength_takeBytes_le bytes text,
      hboundary.le_byteLength⟩⟩
  · rintro _ ⟨hin, hle⟩
    obtain ⟨before, hbefore, rfl⟩ := isBoundary_iff_isPrefix.mp hin
    have hfits : byteLength before ≤ bytes := Nat.le_trans hle (Nat.min_le_left ..)
    obtain ⟨more, hmore⟩ := isPrefix_takeBytes_iff.mpr ⟨hbefore, hfits⟩
    rw [← hmore, byteLength_append]
    omega

namespace Location

def key (location : Location) : Nat ×ₗ Nat := toLex (location.line, location.column)

theorem key_injective : Function.Injective key := by
  rintro ⟨line, column⟩ ⟨line', column'⟩ h
  simpa [key] using h

instance : PartialOrder Location := PartialOrder.lift key key_injective

theorem lt_iff {first second : Location} :
    first < second ↔
      first.line < second.line ∨ first.line = second.line ∧ first.column < second.column :=
  Prod.Lex.lt_iff

def origin : Location := ⟨1, 1⟩

def pass (location : Location) (c : Char) : Location :=
  if c = '\n' then ⟨location.line + 1, 1⟩ else ⟨location.line, location.column + 1⟩

/-- The location behind characters that are passed from left to right. -/
def scan (location : Location) (passed : List Char) : Location := passed.foldl pass location

theorem lt_pass (location : Location) (c : Char) : location < location.pass c := by
  rw [lt_iff, pass]
  split
  · exact .inl (Nat.lt_succ_self _)
  · exact .inr ⟨rfl, Nat.lt_succ_self _⟩

theorem le_scan (location : Location) (passed : List Char) : location ≤ location.scan passed := by
  induction passed generalizing location with
  | nil => exact le_refl location
  | cons c passed ih => exact (location.lt_pass c).le.trans (ih (location.pass c))

theorem lt_scan (location : Location) {passed : List Char} (h : passed ≠ []) :
    location < location.scan passed := by
  obtain ⟨c, passed, rfl⟩ := List.exists_cons_of_ne_nil h
  exact (location.lt_pass c).trans_le ((location.pass c).le_scan passed)

theorem after_append_singleton (before : List Char) (c : Char) :
    after (before ++ [c]) = (after before).pass c := by
  by_cases hc : c = '\n'
  · subst hc
    simp [after, pass]
  · simp [after, pass, hc, List.count_append]

/-- Counting agrees with the scan, wherever the scan takes over. -/
theorem after_append (before passed : List Char) :
    after (before ++ passed) = (after before).scan passed := by
  induction passed generalizing before with
  | nil => rw [List.append_nil, scan, List.foldl_nil]
  | cons c passed ih =>
    rw [List.append_cons, ih, after_append_singleton, scan, scan, List.foldl_cons]

theorem after_eq_scan (before : List Char) : after before = origin.scan before :=
  after_append [] before

theorem locate_byteLength {before text : List Char} (h : before <+: text) :
    locate text (byteLength before) = after before := by
  rw [locate, takeBytes_byteLength h]

theorem locate_strictMonoOn (text : List Char) :
    StrictMonoOn (locate text) {boundary | IsBoundary text boundary} := by
  intro first hfirst second hsecond hlt
  obtain ⟨before, hbefore, rfl⟩ := isBoundary_iff_isPrefix.mp hfirst
  obtain ⟨before', hbefore', rfl⟩ := isBoundary_iff_isPrefix.mp hsecond
  -- What fits before the later boundary is a prefix of all that stands before it.
  have hprefix : before <+: takeBytes (byteLength before') text :=
    isPrefix_takeBytes_iff.mpr ⟨hbefore, hlt.le⟩
  rw [takeBytes_byteLength hbefore'] at hprefix
  obtain ⟨passed, rfl⟩ := hprefix
  have hpassed : passed ≠ [] := by
    rintro rfl
    simp at hlt
  rw [locate_byteLength hbefore, locate_byteLength hbefore', after_append]
  exact lt_scan _ hpassed

/-- The location of a byte offset is where a scan from line one, column one ends when it passes the
characters up to the last boundary at or before the offset and the end of the text. Offsets that are
no boundary share the location of that boundary, and a later boundary has a later location, so that
different boundaries have different ones. -/
theorem locate_scans_in_order (text : List Char) :
    (∀ offset, ∃ before, before <+: text ∧
      IsGreatest {boundary | IsBoundary text boundary ∧ boundary ≤ min offset (byteLength text)}
        (byteLength before) ∧
      locate text offset = origin.scan before ∧
      locate text offset = locate text (byteLength before)) ∧
      StrictMonoOn (locate text) {boundary | IsBoundary text boundary} ∧
      Set.InjOn (locate text) {boundary | IsBoundary text boundary} := by
  refine ⟨?_, locate_strictMonoOn text, (locate_strictMonoOn text).injOn⟩
  intro offset
  have hprefix := takeBytes_isPrefix offset text
  exact ⟨takeBytes offset text, hprefix, byteLength_takeBytes_isGreatest text offset,
    after_eq_scan _, (locate_byteLength hprefix).symm⟩

/-- Two bytes for the first character, two line ends, two bytes for the last one. -/
example : [0, 1, 2, 3, 4, 5, 6, 99].map (locate ['é', '\n', '\n', 'ü']) =
    [⟨1, 1⟩, ⟨1, 1⟩, ⟨1, 2⟩, ⟨2, 1⟩, ⟨3, 1⟩, ⟨3, 1⟩, ⟨3, 2⟩, ⟨3, 2⟩] := by
  decide

end Location

end TextGrammar
