import TextGrammar.Text.Cursor
/-!
# Cursors within a text

A cursor reaches another one by passing characters. The cursors of a text are those that the
start of the text reaches; their offsets are the character boundaries of the text.
-/
namespace TextGrammar

/-- Characters of the text end exactly at the byte `offset`. -/
def IsBoundary (text : List Char) (offset : Nat) : Prop :=
  ∃ before after, text = before ++ after ∧ offset = byteLength before

theorem IsBoundary.le_byteLength {text : List Char} {offset : Nat} (h : IsBoundary text offset) :
    offset ≤ byteLength text := by
  obtain ⟨before, after, rfl, rfl⟩ := h
  rw [byteLength_append]
  omega

theorem dropBytes?_eq_some_iff {offset : Nat} {text rest : List Char} :
    dropBytes? offset text = some rest ↔
      ∃ before, text = before ++ rest ∧ offset = byteLength before := by
  constructor
  · intro h
    induction text generalizing offset with
    | nil =>
      simp only [dropBytes?] at h
      split at h
      · next hzero =>
        cases h
        exact ⟨[], rfl, hzero⟩
      · cases h
    | cons c text ih =>
      simp only [dropBytes?] at h
      split at h
      · next hzero =>
        cases h
        exact ⟨[], rfl, hzero⟩
      · split at h
        · obtain ⟨before, rfl, hoffset⟩ := ih h
          refine ⟨c :: before, rfl, ?_⟩
          rw [byteLength_cons]
          omega
        · cases h
  · rintro ⟨before, rfl, rfl⟩
    induction before with
    | nil => cases rest <;> simp [dropBytes?]
    | cons c before ih =>
      have hpos := c.utf8Size_pos
      simp only [byteLength_cons, List.cons_append, dropBytes?]
      rw [if_neg (by omega), if_pos (by omega), Nat.add_sub_cancel_left, ih]

namespace Cursor

/-- The cursor `next` is found by passing characters. -/
def Reaches (cursor next : Cursor) : Prop :=
  ∃ passed, cursor.rest = passed ++ next.rest ∧ next.offset = cursor.offset + byteLength passed

def IsIn (cursor : Cursor) (text : List Char) : Prop := (start text).Reaches cursor

theorem Reaches.refl (cursor : Cursor) : cursor.Reaches cursor := ⟨[], by simp⟩

theorem Reaches.trans {first second third : Cursor} (h : first.Reaches second)
    (h' : second.Reaches third) : first.Reaches third := by
  obtain ⟨passed, hrest, hoffset⟩ := h
  obtain ⟨passed', hrest', hoffset'⟩ := h'
  refine ⟨passed ++ passed', ?_, ?_⟩
  · rw [hrest, hrest', List.append_assoc]
  · rw [hoffset', hoffset, byteLength_append, Nat.add_assoc]

theorem Reaches.offset_le {cursor next : Cursor} (h : cursor.Reaches next) :
    cursor.offset ≤ next.offset := by
  obtain ⟨passed, _, hoffset⟩ := h
  omega

theorem Reaches.length_lt {cursor next : Cursor} (h : cursor.Reaches next)
    (hne : next.offset ≠ cursor.offset) : next.rest.length < cursor.rest.length := by
  obtain ⟨passed, hrest, hoffset⟩ := h
  have hpassed : passed ≠ [] := by
    rintro rfl
    exact hne (by simpa using hoffset)
  have hpos := List.length_pos_iff.mpr hpassed
  rw [hrest, List.length_append]
  omega

theorem Reaches.eq_of_offset_eq {cursor next : Cursor} (h : cursor.Reaches next)
    (hsame : next.offset = cursor.offset) : next = cursor := by
  obtain ⟨passed, hrest, hoffset⟩ := h
  have hpassed : passed = [] := byteLength_eq_zero_iff.mp (by omega)
  rw [hpassed, List.nil_append] at hrest
  cases cursor
  cases next
  simp_all

theorem reaches_advance (cursor : Cursor) (count : Nat) : cursor.Reaches (cursor.advance count) :=
  ⟨cursor.rest.take count, (List.take_append_drop ..).symm, rfl⟩

theorem isIn_iff {cursor : Cursor} {text : List Char} :
    cursor.IsIn text ↔
      ∃ before, text = before ++ cursor.rest ∧ cursor.offset = byteLength before := by
  simp only [IsIn, Reaches, start, Nat.zero_add]

theorem isIn_append (before rest : List Char) :
    (⟨byteLength before, rest⟩ : Cursor).IsIn (before ++ rest) :=
  isIn_iff.mpr ⟨before, rfl, rfl⟩

theorem exists_isIn (cursor : Cursor) : ∃ text, cursor.IsIn text := by
  have hbytes (count : Nat) : byteLength (List.replicate count 'a') = count := by
    induction count with
    | zero => rfl
    | succ count ih =>
      have hsize : 'a'.utf8Size = 1 := by rfl
      rw [List.replicate_succ, byteLength_cons, ih, hsize, Nat.add_comm]
  have hoffset := (hbytes cursor.offset).symm
  exact ⟨_, isIn_iff.mpr ⟨List.replicate cursor.offset 'a', rfl, hoffset⟩⟩

theorem IsIn.of_reaches {cursor next : Cursor} {text : List Char} (h : cursor.IsIn text)
    (hnext : cursor.Reaches next) : next.IsIn text :=
  Reaches.trans h hnext

theorem IsIn.isBoundary {cursor : Cursor} {text : List Char} (h : cursor.IsIn text) :
    IsBoundary text cursor.offset := by
  obtain ⟨before, htext, hoffset⟩ := isIn_iff.mp h
  exact ⟨before, cursor.rest, htext, hoffset⟩

theorem IsIn.dropBytes? {cursor : Cursor} {text : List Char} (h : cursor.IsIn text) :
    dropBytes? cursor.offset text = some cursor.rest :=
  dropBytes?_eq_some_iff.mpr (isIn_iff.mp h)

theorem IsIn.isAtEnd_iff {cursor : Cursor} {text : List Char} (h : cursor.IsIn text) :
    cursor.isAtEnd = true ↔ byteLength text ≤ cursor.offset := by
  obtain ⟨before, rfl, hoffset⟩ := isIn_iff.mp h
  rw [isAtEnd, List.isEmpty_iff, ← byteLength_eq_zero_iff, byteLength_append]
  omega

end Cursor

end TextGrammar
