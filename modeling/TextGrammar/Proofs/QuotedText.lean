import TextGrammar.Proofs.Readers
import TextGrammar.Text.Quoted
/-!
# Reading quoted text

Quoted text can be read back one character at a time, and where it ends can be told from the text
itself. So different texts have different quoted forms, whatever follows them.
-/
namespace TextGrammar

theorem hexDigitValue_digitChar {digit : Nat} (h : digit < 16) :
    hexDigitValue digit.digitChar = digit := by
  have hall : ∀ digit < 16, hexDigitValue digit.digitChar = digit := by decide
  exact hall digit h

namespace Quoted

theorem digitsValue_hexDigits (n : Nat) : digitsValue 16 (hexDigits n) = n := by
  induction n using Nat.strongRecOn with
  | ind n ih =>
    by_cases hlt : n < 16
    · rw [hexDigits, Nat.toDigits_of_lt_base hlt]
      simp [digitsValue, hexDigitValue_digitChar hlt]
    · have hdiv := ih (n / 16) (by omega)
      have hlast := hexDigitValue_digitChar (Nat.mod_lt n (by omega : 16 > 0))
      rw [hexDigits, Nat.toDigits_of_base_le (by omega) (by omega)]
      simp only [digitsValue, hexDigits] at hdiv ⊢
      rw [List.foldl_append, hdiv]
      simp only [List.foldl_cons, List.foldl_nil, hlast]
      omega

theorem isHexDigit_of_mem_hexDigits {n : Nat} {c : Char} (hc : c ∈ hexDigits n) :
    isHexDigit c = true := by
  have hall : ∀ digit < 16, isHexDigit digit.digitChar = true := by decide
  induction n using Nat.strongRecOn with
  | ind n ih =>
    by_cases hlt : n < 16
    · rw [hexDigits, Nat.toDigits_of_lt_base hlt, List.mem_singleton] at hc
      rw [hc]
      exact hall n hlt
    · rw [hexDigits, Nat.toDigits_of_base_le (by omega) (by omega), List.mem_append,
        List.mem_singleton] at hc
      rcases hc with hc | hc
      · exact ih (n / 16) (by omega) hc
      · rw [hc]
        exact hall (n % 16) (Nat.mod_lt n (by omega))

def unescape (c : Char) : Char :=
  if c = '0' then '\x00' else if c = 't' then '\t' else if c = 'r' then '\r'
  else if c = 'n' then '\n' else c

def decodeChar : List Char → Option (Char × List Char)
  | [] => none
  | '\\' :: 'u' :: rest =>
    let digits := (rest.drop 1).takeWhile isHexDigit
    some (Char.ofNat (digitsValue 16 digits), rest.drop (digits.length + 2))
  | '\\' :: c :: rest => some (unescape c, rest)
  | c :: rest => some (c, rest)

theorem decodeChar_encodeChar (c : Char) (rest : List Char) :
    decodeChar (encodeChar c ++ rest) = some (c, rest) := by
  have hclose : isHexDigit '}' = false := by decide
  have hdigits : (hexDigits c.toNat ++ '}' :: rest).takeWhile isHexDigit = hexDigits c.toNat :=
    Reader.takeWhile_append_of_stop (fun _ hd => isHexDigit_of_mem_hexDigits hd) (by simp [hclose])
  fun_cases encodeChar c with
  | case1 | case2 | case3 | case4 | case5 | case6 => simp_all [decodeChar, unescape]
  | case7 => simp [decodeChar, hdigits, digitsValue_hexDigits]
  | case8 => simp_all [decodeChar]

/-- Within quotes a quote does not stand alone. -/
theorem exists_encodeChar_eq (c : Char) :
    ∃ first rest, encodeChar c = first :: rest ∧ first ≠ '"' := by
  fun_cases encodeChar c with
  | case1 | case2 | case3 | case4 | case5 | case6 | case7 => exact ⟨'\\', _, rfl, by decide⟩
  | case8 _ _ _ _ hquote => exact ⟨c, [], rfl, hquote⟩

private theorem flatMap_encodeChar_injective {text text' rest rest' : List Char}
    (h : text.flatMap encodeChar ++ '"' :: rest = text'.flatMap encodeChar ++ '"' :: rest') :
    text = text' ∧ rest = rest' := by
  induction text generalizing text' with
  | nil =>
    cases text' with
    | nil => simpa using h
    | cons c' text' =>
      obtain ⟨first, further, hchar, hquote⟩ := exists_encodeChar_eq c'
      simp only [List.flatMap_nil, List.flatMap_cons, hchar, List.nil_append, List.cons_append,
        List.cons.injEq] at h
      exact absurd h.1.symm hquote
  | cons c text ih =>
    cases text' with
    | nil =>
      obtain ⟨first, further, hchar, hquote⟩ := exists_encodeChar_eq c
      simp only [List.flatMap_nil, List.flatMap_cons, hchar, List.nil_append, List.cons_append,
        List.cons.injEq] at h
      exact absurd h.1 hquote
    | cons c' text' =>
      have hdecode := congrArg decodeChar h
      simp only [List.flatMap_cons, List.append_assoc, decodeChar_encodeChar, Option.some.injEq,
        Prod.mk.injEq] at hdecode
      obtain ⟨htext, hrest⟩ := ih hdecode.2
      exact ⟨by rw [hdecode.1, htext], hrest⟩

/-- Quoted text tells the text and where it ends. -/
theorem encode_append_injective {text text' : String} {rest rest' : List Char}
    (h : (encode text).toList ++ rest = (encode text').toList ++ rest') :
    text = text' ∧ rest = rest' := by
  have hlists : text.toList.flatMap encodeChar ++ '"' :: rest =
      text'.toList.flatMap encodeChar ++ '"' :: rest' := by
    simpa [encode] using h
  obtain ⟨htext, hrest⟩ := flatMap_encodeChar_injective hlists
  exact ⟨String.toList_inj.mp htext, hrest⟩

end Quoted

end TextGrammar
