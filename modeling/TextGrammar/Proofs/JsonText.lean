import TextGrammar.Document.Json.Reader
import TextGrammar.Document.Json.Writer
import TextGrammar.Proofs.Readers
/-!
# The text of a document

Documents are written as JSON and read back: as long as they hold values only and keep to the limit
on nesting, nothing is lost. Whatever is read keeps to the limit.
-/
namespace TextGrammar

def Json.IsWord (value : Int) : Prop := Int64.minValue.toInt ≤ value ∧ value < UInt64.size

/-- Documents that hold values only: no dates, no fractions, no integers beyond 64 bits. -/
inductive Document.IsPlain : Document → Prop
  | null : IsPlain .null
  | bool (value : Bool) : IsPlain (.bool value)
  | integer {value : Int} (h : Json.IsWord value) : IsPlain (.integer value)
  | string (value : String) : IsPlain (.string value)
  | array {items : List Document} (h : ∀ item ∈ items, IsPlain item) : IsPlain (.array items)
  | object {members : List (String × Document)} (h : ∀ member ∈ members, IsPlain member.2) :
    IsPlain (.object members)

namespace Document

attribute [simp] IsPlain.null IsPlain.bool IsPlain.string

@[simp]
theorem isPlain_array_iff {items : List Document} :
    (array items).IsPlain ↔ ∀ item ∈ items, item.IsPlain :=
  ⟨fun h => by cases h with | array h => exact h, .array⟩

@[simp]
theorem isPlain_object_iff {members : List (String × Document)} :
    (object members).IsPlain ↔ ∀ member ∈ members, member.2.IsPlain :=
  ⟨fun h => by cases h with | object h => exact h, .object⟩

end Document

namespace Json

open Reader

theorem hexUnit_hex2 {n : Nat} (hn : n < 32) (rest : List Char) :
    hexUnit ('0' :: '0' :: (hex2 n ++ rest)) = some (n, rest) := by
  have hdigits : ∀ n < 32, ('0' :: '0' :: hex2 n).all isHexDigit = true ∧
      digitsValue 16 ('0' :: '0' :: hex2 n) = n := by decide
  obtain ⟨hall, hvalue⟩ := hdigits n hn
  show (do guard (('0' :: '0' :: hex2 n).all isHexDigit)
           return digitsValue 16 ('0' :: '0' :: hex2 n) : Reader Nat) rest = _
  rw [bind_of (guard_of hall rest), hvalue]
  rfl

theorem escaped_hex2 {c : Char} (hc : c.toNat < 32) (rest : List Char) :
    escaped ('u' :: '0' :: '0' :: (hex2 c.toNat ++ rest)) = some (some c, rest) := by
  have hscalar : scalar? c.toNat = some c := by
    rw [scalar?, if_pos (.inl (by omega)), Char.ofNat_toNat]
  have hlow : ¬ (0xd800 ≤ c.toNat && c.toNat ≤ 0xdbff) = true := by
    rw [Bool.and_eq_true, decide_eq_true_iff]
    omega
  rw [escaped, bind_of (next_cons 'u' _)]
  refine (bind_of (hexUnit_hex2 hc rest)).trans ?_
  rw [if_neg hlow, hscalar]
  rfl

theorem stringBody_encodeChar (fuel : Nat) (chars : List Char) (c : Char) (rest : List Char) :
    stringBody (fuel + 1) (some chars) (encodeChar c ++ rest) =
      stringBody fuel (some (c :: chars)) rest := by
  unfold encodeChar
  split
  · next h => rw [h]; rfl
  · next hquote =>
    split
    · next h => rw [h]; rfl
    · next hslash =>
      -- The other characters with an escape of their own.
      iterate 5
        split
        · next h => rw [h]; rfl
      split
      · next h =>
        rw [List.append_assoc]
        refine (bind_of (next_cons '\\' _)).trans ?_
        exact bind_of (escaped_hex2 h rest)
      · next h =>
        refine (bind_of (next_cons c rest)).trans ?_
        rw [if_neg (by simpa using hquote), if_neg (by simpa using hslash),
          bind_of (guard_of (Nat.not_lt.mp h) rest)]
        rfl

theorem stringBody_flatMap {fuel : Nat} (chars text rest : List Char) (h : text.length < fuel) :
    stringBody fuel (some chars) (text.flatMap encodeChar ++ '"' :: rest) =
      some (some (String.ofList (chars.reverse ++ text)), rest) := by
  induction text generalizing fuel chars with
  | nil =>
    obtain ⟨fuel, rfl⟩ := Nat.exists_eq_add_one_of_ne_zero (Nat.ne_zero_of_lt h)
    rw [List.append_nil]
    rfl
  | cons c text ih =>
    obtain ⟨fuel, rfl⟩ := Nat.exists_eq_add_one_of_ne_zero (Nat.ne_zero_of_lt h)
    rw [List.flatMap_cons, List.append_assoc, stringBody_encodeChar,
      ih _ (Nat.lt_of_succ_lt_succ h), List.reverse_cons, List.append_assoc, List.singleton_append]

theorem length_le_length_flatMap (text : List Char) :
    text.length ≤ (text.flatMap encodeChar).length := by
  have hchar (c : Char) : 1 ≤ (encodeChar c).length := by
    unfold encodeChar
    repeat' split
    all_goals simp
  induction text with
  | nil => simp
  | cons c text ih =>
    have := hchar c
    simp only [List.flatMap_cons, List.length_append, List.length_cons]
    omega

theorem string_encodeString (text : String) (rest : List Char) :
    string ((encodeString text).toList ++ rest) = some (some text, rest) := by
  have hlength := length_le_length_flatMap text.toList
  rw [encodeString, String.toList_ofList, List.cons_append, List.cons_append, List.append_assoc,
    List.singleton_append, string, bind_of (expect_self _ _)]
  refine (bind_of rfl).trans ((stringBody_flatMap [] _ _ ?_).trans ?_)
  · simp only [List.length_append, List.length_cons]
    omega
  · rw [List.reverse_nil, List.nil_append, String.ofList_toList]

theorem digitsValue_toDigits (n : Nat) : digitsValue 10 (Nat.toDigits 10 n) = n := by
  have hfold : digitsValue 10 (Nat.toDigits 10 n) = Nat.ofDigitChars 10 (Nat.toDigits 10 n) 0 := by
    apply List.foldl_rel rfl
    rintro c hc value _ rfl
    rw [hexDigitValue, if_pos (Nat.isDigit_of_mem_toDigits (by decide) (by decide) hc)]
    rfl
  rw [hfold, Nat.ofDigitChars_toDigits (by decide) (by decide)]

theorem toDigits_leads (n : Nat) :
    Nat.toDigits 10 n = ['0'] ∨ ∃ c digits, Nat.toDigits 10 n = c :: digits ∧ c ≠ '0' := by
  induction n using Nat.strongRecOn with
  | _ n ih =>
    rcases Nat.lt_or_ge n 10 with hlt | hge
    · rw [Nat.toDigits_of_lt_base hlt]
      rcases Nat.eq_zero_or_pos n with rfl | hpos
      · exact .inl rfl
      · exact .inr ⟨_, [], rfl, by rw [ne_eq, Nat.digitChar_eq_zero]; omega⟩
    · rw [Nat.toDigits_of_base_le (by decide) hge]
      rcases ih (n / 10) (by omega) with hzero | ⟨c, digits, heq, hc⟩
      · have hvalue := digitsValue_toDigits (n / 10)
        rw [hzero] at hvalue
        have : digitsValue 10 ['0'] = 0 := by decide
        omega
      · exact .inr ⟨c, digits ++ [_], by rw [heq, List.cons_append], hc⟩

/-- What follows a value inside of an array or an object, or at the end of the text. -/
def Ends (rest : List Char) : Prop := ∀ c ∈ rest.head?, c = ',' ∨ c = ']' ∨ c = '}'

theorem ends_cons {c : Char} (h : c = ',' ∨ c = ']' ∨ c = '}') (rest : List Char) :
    Ends (c :: rest) := by
  intro d hd
  rwa [← Option.some.inj hd]

theorem Ends.forall_head? {rest : List Char} {P : Char → Prop} (h : Ends rest)
    (hP : P ',' ∧ P ']' ∧ P '}') : ∀ c ∈ rest.head?, P c := by
  intro c hc
  rcases h c hc with rfl | rfl | rfl
  · exact hP.1
  · exact hP.2.1
  · exact hP.2.2

theorem fraction_of_ends {rest : List Char} (h : Ends rest) : fraction rest = some ([], rest) := by
  rw [fraction, bind_of (accept_of_ne (h.forall_head? (by decide)))]
  rfl

theorem exponent_of_ends {rest : List Char} (h : Ends rest) : exponent rest = some ([], rest) := by
  cases rest with
  | nil => rfl
  | cons c rest => rcases h c rfl with rfl | rfl | rfl <;> rfl

theorem toString_eq (value : Int) :
    (toString value).toList =
      (if value < 0 then ['-'] else []) ++ Nat.toDigits 10 value.natAbs := by
  rw [Int.toString_eq_repr]
  cases value with
  | ofNat n => exact String.toList_ofList
  | negSucc n =>
    rw [Int.repr, String.toList_append, if_pos (Int.negSucc_lt_zero n)]
    exact congrArg _ String.toList_ofList

theorem numeral_toDigits {value : Int} (h : IsWord value) :
    numeral (decide (value < 0)) (Nat.toDigits 10 value.natAbs) [] [] = .integer value := by
  have hvalue : (if decide (value < 0) = true then
      -(digitsValue 10 (Nat.toDigits 10 value.natAbs) : Int)
      else (digitsValue 10 (Nat.toDigits 10 value.natAbs) : Int)) = value := by
    simp only [digitsValue_toDigits, decide_eq_true_iff]
    split <;> omega
  have hzero : (!(decide (value < 0) && value == 0)) = true := by
    by_cases hz : value = 0 <;> simp [hz]
  rw [numeral, hvalue]
  apply if_pos
  simp only [List.isEmpty_nil, Bool.true_and, hzero, Bool.and_eq_true, decide_eq_true_iff]
  exact h

theorem number_toString {value : Int} (h : IsWord value) {rest : List Char} (hrest : Ends rest) :
    number ((toString value).toList ++ rest) = some (.integer value, rest) := by
  have hdigits : ∀ c ∈ Nat.toDigits 10 value.natAbs, c.isDigit = true := fun c hc =>
    Nat.isDigit_of_mem_toDigits (by decide) (by decide) hc
  have hsign : accept '-'
      ((if value < 0 then ['-'] else []) ++ (Nat.toDigits 10 value.natAbs ++ rest)) =
      some (decide (value < 0), Nat.toDigits 10 value.natAbs ++ rest) := by
    by_cases hneg : value < 0
    · rw [if_pos hneg, decide_eq_true hneg]
      exact accept_self '-' _
    · rw [if_neg hneg, decide_eq_false hneg]
      apply accept_of_ne
      rintro _ hc rfl
      rw [List.nil_append, List.head?_append, Option.or_of_isSome (by simp)] at hc
      have := hdigits '-' (List.mem_of_mem_head? hc)
      contradiction
  have hwhole : takeWhile Char.isDigit (Nat.toDigits 10 value.natAbs ++ rest) =
      some (Nat.toDigits 10 value.natAbs, rest) :=
    takeWhile_append hdigits (hrest.forall_head? (by decide))
  have hleads : (Nat.toDigits 10 value.natAbs == ['0'] ||
      (Nat.toDigits 10 value.natAbs).head?.any (· != '0')) = true := by
    rcases toDigits_leads value.natAbs with heq | ⟨c, digits, heq, hc⟩
    · rw [heq]
      rfl
    · simp [heq, hc]
  rw [toString_eq, List.append_assoc, number, bind_of hsign, bind_of hwhole,
    bind_of (guard_of hleads rest), bind_of (fraction_of_ends hrest),
    bind_of (exponent_of_ends hrest), numeral_toDigits h]
  rfl

theorem skipBlank_cons {c : Char} (h : isBlank c = false) (rest : List Char) :
    skipBlank (c :: rest) = some ((), c :: rest) :=
  skipWhile_of_stop (by simpa using h)

theorem skipBlank_peek {α : Type} {c : Char} (h : isBlank c = false) (rest : List Char)
    (next : Option Char → Reader α) :
    (do skipBlank; next (← peek) : Reader α) (c :: rest) = next (some c) (c :: rest) :=
  (bind_of (skipBlank_cons h rest)).trans (bind_of (peek_cons c rest))

theorem literal_append (word : String) (document : Document) (rest : List Char) :
    literal word document (word.toList ++ rest) = some (document, rest) := by
  rw [literal, bind_of (acceptAll_append word rest), bind_of (guard_of rfl rest)]
  rfl

def LeadsInteger (c : Char) : Prop := c = '-' ∨ c.isDigit = true

theorem LeadsInteger.ne {c d : Char} (h : LeadsInteger c)
    (hd : d ≠ '-' ∧ d.isDigit = false) : c ≠ d := by
  rintro rfl
  rcases h with h | h
  · exact hd.1 h
  · exact Bool.false_ne_true (hd.2.symm.trans h)

theorem LeadsInteger.not_isBlank {c : Char} (h : LeadsInteger c) : isBlank c = false := by
  simp [isBlank, h.ne (d := ' ') (by decide), h.ne (d := '\n') (by decide),
    h.ne (d := '\t') (by decide), h.ne (d := '\r') (by decide)]

theorem exists_toString_eq (value : Int) :
    ∃ c text, (toString value).toList = c :: text ∧ LeadsInteger c := by
  rw [toString_eq]
  by_cases h : value < 0
  · rw [if_pos h]
    exact ⟨'-', _, rfl, .inl rfl⟩
  · obtain ⟨c, text, heq⟩ :=
      List.exists_cons_of_ne_nil (Nat.toDigits_ne_nil (n := value.natAbs) (b := 10))
    have hc : c ∈ Nat.toDigits 10 value.natAbs := by simp [heq]
    rw [if_neg h, heq]
    exact ⟨c, text, rfl, .inr (Nat.isDigit_of_mem_toDigits (by decide) (by decide) hc)⟩

theorem value_integer (fuel depth : Nat) {number : Int} (h : IsWord number) {rest : List Char}
    (hrest : Ends rest) :
    value (fuel + 1) depth ((toString number).toList ++ rest) = some (.integer number, rest) := by
  rw [← number_toString h hrest]
  obtain ⟨c, text, heq, hc⟩ := exists_toString_eq number
  rw [heq, List.cons_append, value]
  refine (skipBlank_peek hc.not_isBlank _ _).trans (congrFun ?_ _)
  split
  case h_7 => rfl
  case h_8 heq' => cases heq'
  all_goals
    next heq' =>
    cases heq'
    exact absurd rfl (hc.ne (by decide))

section Brackets

variable {α : Type} {close : Char} {inner : Reader (List α)}

theorem bracketed_nil (hblank : isBlank close = false) (c : Char) (rest : List Char) :
    bracketed close inner (c :: close :: rest) = some ([], rest) := by
  rw [bracketed, bind_of (next_cons _ _), bind_of (skipBlank_cons hblank _),
    bind_of (accept_self _ _)]
  rfl

theorem bracketed_cons {c : Char} {text rest : List Char} {content : List α}
    (hblank : isBlank c = false) (hc : c ≠ close) (d : Char)
    (h : inner (c :: text) = some (content, rest)) :
    bracketed close inner (d :: c :: text) = some (content, rest) := by
  rw [bracketed, bind_of (next_cons _ _), bind_of (skipBlank_cons hblank _),
    bind_of (accept_of_ne (by simpa using hc))]
  exact h

theorem continued_close (hblank : isBlank close = false) (hclose : close ≠ ',') (first : α)
    (rest : List Char) : continued close first inner (close :: rest) = some ([first], rest) := by
  rw [continued, bind_of (skipBlank_cons hblank _), bind_of (accept_of_ne (by simpa using hclose)),
    if_neg Bool.false_ne_true, bind_of (expect_self _ _)]
  rfl

theorem continued_comma {first : α} {text rest : List Char} {more : List α}
    (h : inner text = some (more, rest)) :
    continued close first inner (',' :: text) = some (first :: more, rest) := by
  rw [continued, bind_of (skipBlank_cons rfl _), bind_of (accept_self _ _), if_pos rfl, bind_of h]
  rfl

end Brackets

theorem toList_compact_array (items : List Document) :
    (compact (.array items)).toList = '[' :: ((compactItems items).toList ++ [']']) := by
  rw [compact, String.toList_append, String.toList_append]
  rfl

theorem toList_compact_object (members : List (String × Document)) :
    (compact (.object members)).toList = '{' :: ((compactMembers members).toList ++ ['}']) := by
  rw [compact, String.toList_append, String.toList_append]
  rfl

theorem toList_compactItems_cons (item next : Document) (items : List Document) :
    (compactItems (item :: next :: items)).toList =
      (compact item).toList ++ ',' :: (compactItems (next :: items)).toList := by
  rw [compactItems, String.toList_append, String.toList_append, List.append_assoc]
  · rfl
  · exact List.cons_ne_nil _ _

theorem toList_compactMembers_singleton (name : String) (value : Document) :
    (compactMembers [(name, value)]).toList =
      (encodeString name).toList ++ ':' :: (compact value).toList := by
  rw [compactMembers, String.toList_append, String.toList_append, List.append_assoc]
  rfl

theorem toList_compactMembers_cons (name : String) (value : Document) (next : String × Document)
    (members : List (String × Document)) :
    (compactMembers ((name, value) :: next :: members)).toList =
      (encodeString name).toList ++
        ':' :: ((compact value).toList ++ ',' :: (compactMembers (next :: members)).toList) := by
  rw [compactMembers]
  · simp [String.toList_append]
  · exact List.cons_ne_nil _ _

theorem exists_compact_eq {document : Document} (h : document.IsPlain) :
    ∃ c text, (compact document).toList = c :: text ∧ isBlank c = false ∧ c ≠ ']' := by
  cases h with
  | null => exact ⟨_, _, rfl, rfl, by decide⟩
  | bool value => cases value <;> exact ⟨_, _, rfl, rfl, by decide⟩
  | integer h =>
    obtain ⟨c, text, heq, hc⟩ := exists_toString_eq _
    exact ⟨c, text, heq, hc.not_isBlank, hc.ne (by decide)⟩
  | string value => exact ⟨'"', _, String.toList_ofList, rfl, by decide⟩
  | array h => exact ⟨'[', _, toList_compact_array _, rfl, by decide⟩
  | object h => exact ⟨'{', _, toList_compact_object _, rfl, by decide⟩

theorem exists_compactItems_eq {item : Document} (h : item.IsPlain) (items : List Document) :
    ∃ c text, (compactItems (item :: items)).toList = c :: text ∧ isBlank c = false ∧ c ≠ ']' := by
  obtain ⟨c, text, heq, hc⟩ := exists_compact_eq h
  cases items with
  | nil => exact ⟨c, text, heq, hc⟩
  | cons next items => exact ⟨c, _, by rw [toList_compactItems_cons, heq, List.cons_append], hc⟩

theorem exists_encodeString_eq (text : String) : ∃ rest, (encodeString text).toList = '"' :: rest :=
  ⟨_, String.toList_ofList⟩

theorem exists_compactMembers_eq (member : String × Document) (members : List (String × Document)) :
    ∃ text, (compactMembers (member :: members)).toList = '"' :: text := by
  obtain ⟨text, heq⟩ := exists_encodeString_eq member.1
  cases members with
  | nil => exact ⟨_, by rw [toList_compactMembers_singleton, heq, List.cons_append]⟩
  | cons next members => exact ⟨_, by rw [toList_compactMembers_cons, heq, List.cons_append]⟩

theorem members_name (fuel depth : Nat) (name : String) (text : List Char) :
    members (fuel + 1) depth ((encodeString name).toList ++ ':' :: text) =
      (do
        let member ← value fuel depth
        continued '}' (name, member) (members fuel depth) : Reader _) text := by
  have hname := string_encodeString name (':' :: text)
  obtain ⟨tail, heq⟩ := exists_encodeString_eq name
  rw [heq] at hname ⊢
  rw [members, List.cons_append, bind_of (skipBlank_cons rfl _)]
  refine (bind_of hname).trans ?_
  refine (bind_of (a := name) rfl).trans ?_
  rw [bind_of (skipBlank_cons rfl _), bind_of (expect_self _ _)]

/-- With fuel for two steps at each character, what is written is read back. -/
structure ReadsBack (fuel : Nat) : Prop where
  value (depth : Nat) (rest : List Char) {document : Document} (hplain : document.IsPlain)
    (hfuel : 2 * (compact document).toList.length ≤ fuel + 1)
    (hdepth : depth + document.depth ≤ maxNesting) (hrest : Ends rest) :
    value fuel depth ((compact document).toList ++ rest) = some (document, rest)
  items (depth : Nat) (rest : List Char) {documents : List Document} (hne : documents ≠ [])
    (hplain : ∀ item ∈ documents, item.IsPlain)
    (hfuel : 2 * (compactItems documents).toList.length ≤ fuel)
    (hdepth : depth + Document.itemsDepth documents ≤ maxNesting) :
    items fuel depth ((compactItems documents).toList ++ ']' :: rest) = some (documents, rest)
  members (depth : Nat) (rest : List Char) {fields : List (String × Document)} (hne : fields ≠ [])
    (hplain : ∀ member ∈ fields, member.2.IsPlain)
    (hfuel : 2 * (compactMembers fields).toList.length ≤ fuel)
    (hdepth : depth + Document.membersDepth fields ≤ maxNesting) :
    members fuel depth ((compactMembers fields).toList ++ '}' :: rest) = some (fields, rest)

namespace ReadsBack

variable {fuel : Nat} (h : ReadsBack fuel) (depth : Nat) (rest : List Char)
include h

theorem bracketed_items {documents : List Document} (hplain : ∀ item ∈ documents, item.IsPlain)
    (hfuel : 2 * (compactItems documents).toList.length ≤ fuel)
    (hdepth : depth + Document.itemsDepth documents ≤ maxNesting) :
    bracketed ']' (Json.items fuel depth)
      ('[' :: ((compactItems documents).toList ++ ']' :: rest)) = some (documents, rest) := by
  cases documents with
  | nil => exact bracketed_nil rfl '[' rest
  | cons item documents =>
    obtain ⟨c, text, heq, hblank, hc⟩ :=
      exists_compactItems_eq (hplain item List.mem_cons_self) documents
    have hitems := h.items depth rest (List.cons_ne_nil _ _) hplain hfuel hdepth
    rw [heq] at hitems ⊢
    exact bracketed_cons hblank hc '[' hitems

theorem bracketed_members {fields : List (String × Document)}
    (hplain : ∀ member ∈ fields, member.2.IsPlain)
    (hfuel : 2 * (compactMembers fields).toList.length ≤ fuel)
    (hdepth : depth + Document.membersDepth fields ≤ maxNesting) :
    bracketed '}' (Json.members fuel depth)
      ('{' :: ((compactMembers fields).toList ++ '}' :: rest)) = some (fields, rest) := by
  cases fields with
  | nil => exact bracketed_nil rfl '{' rest
  | cons field fields =>
    obtain ⟨text, heq⟩ := exists_compactMembers_eq field fields
    have hmembers := h.members depth rest (List.cons_ne_nil _ _) hplain hfuel hdepth
    rw [heq] at hmembers ⊢
    exact bracketed_cons rfl (by decide) '{' hmembers

theorem value_succ {document : Document} (hplain : document.IsPlain)
    (hfuel : 2 * (compact document).toList.length ≤ fuel + 2)
    (hdepth : depth + document.depth ≤ maxNesting) (hrest : Ends rest) :
    Json.value (fuel + 1) depth ((compact document).toList ++ rest) = some (document, rest) := by
  cases hplain with
  | null =>
    rw [Json.value]
    exact (skipBlank_peek rfl _ _).trans (literal_append "null" .null rest)
  | bool value =>
    rw [Json.value]
    cases value with
    | true => exact (skipBlank_peek rfl _ _).trans (literal_append "true" (.bool true) rest)
    | false => exact (skipBlank_peek rfl _ _).trans (literal_append "false" (.bool false) rest)
  | integer hword => exact value_integer fuel depth hword hrest
  | string text =>
    have hstring := string_encodeString text rest
    obtain ⟨tail, heq⟩ := exists_encodeString_eq text
    show Json.value (fuel + 1) depth ((encodeString text).toList ++ rest) = _
    rw [heq] at hstring ⊢
    rw [Json.value]
    exact (skipBlank_peek rfl _ _).trans (bind_of hstring)
  | @array items hitems =>
    rw [toList_compact_array, List.length_cons, List.length_append] at hfuel
    rw [Document.depth] at hdepth
    have hread := h.bracketed_items (depth + 1) rest hitems (by omega) (by omega)
    have hnested : nested (depth + 1) (.array items) = .array items := if_pos (by omega)
    rw [toList_compact_array, List.cons_append, List.append_assoc, Json.value]
    refine (skipBlank_peek rfl _ _).trans ((bind_of hread).trans ?_)
    rw [hnested]
    rfl
  | @object members hmembers =>
    rw [toList_compact_object, List.length_cons, List.length_append] at hfuel
    rw [Document.depth] at hdepth
    have hread := h.bracketed_members (depth + 1) rest hmembers (by omega) (by omega)
    have hnested : nested (depth + 1) (.object members) = .object members := if_pos (by omega)
    rw [toList_compact_object, List.cons_append, List.append_assoc, Json.value]
    refine (skipBlank_peek rfl _ _).trans ((bind_of hread).trans ?_)
    rw [hnested]
    rfl

theorem items_succ {documents : List Document} (hne : documents ≠ [])
    (hplain : ∀ item ∈ documents, item.IsPlain)
    (hfuel : 2 * (compactItems documents).toList.length ≤ fuel + 1)
    (hdepth : depth + Document.itemsDepth documents ≤ maxNesting) :
    Json.items (fuel + 1) depth ((compactItems documents).toList ++ ']' :: rest) =
      some (documents, rest) := by
  match documents, hne with
  | [item], _ =>
    rw [Document.itemsDepth, Document.itemsDepth, Nat.max_zero] at hdepth
    rw [compactItems] at hfuel ⊢
    have hitem := h.value depth _ (hplain item List.mem_cons_self) hfuel hdepth
      (ends_cons (.inr (.inl rfl)) rest)
    rw [Json.items, bind_of hitem]
    exact continued_close rfl (by decide) item rest
  | item :: next :: documents, _ =>
    rw [Document.itemsDepth] at hdepth
    rw [toList_compactItems_cons, List.length_append, List.length_cons] at hfuel
    have hmore := h.items depth rest (List.cons_ne_nil next documents)
      (fun item hitem => hplain item (List.mem_cons_of_mem _ hitem)) (by omega) (by omega)
    have hitem := h.value depth _ (hplain item List.mem_cons_self) (by omega) (by omega)
      (ends_cons (.inl rfl) ((compactItems (next :: documents)).toList ++ ']' :: rest))
    rw [toList_compactItems_cons, List.append_assoc, List.cons_append, Json.items, bind_of hitem]
    exact continued_comma hmore

theorem members_succ {fields : List (String × Document)} (hne : fields ≠ [])
    (hplain : ∀ member ∈ fields, member.2.IsPlain)
    (hfuel : 2 * (compactMembers fields).toList.length ≤ fuel + 1)
    (hdepth : depth + Document.membersDepth fields ≤ maxNesting) :
    Json.members (fuel + 1) depth ((compactMembers fields).toList ++ '}' :: rest) =
      some (fields, rest) := by
  obtain ⟨⟨name, value⟩, fields, rfl⟩ := List.exists_cons_of_ne_nil hne
  have hvalue : value.IsPlain := hplain (name, value) List.mem_cons_self
  rw [Document.membersDepth] at hdepth
  cases fields with
  | nil =>
    rw [toList_compactMembers_singleton, List.length_append, List.length_cons] at hfuel
    have hread := h.value depth _ hvalue (by omega) (by omega)
      (ends_cons (.inr (.inr rfl)) rest)
    rw [toList_compactMembers_singleton, List.append_assoc, List.cons_append, members_name,
      bind_of hread]
    exact continued_close rfl (by decide) _ rest
  | cons next fields =>
    rw [toList_compactMembers_cons, List.length_append, List.length_cons, List.length_append,
      List.length_cons] at hfuel
    have hmore := h.members depth rest (List.cons_ne_nil next fields)
      (fun member hmember => hplain member (List.mem_cons_of_mem _ hmember)) (by omega) (by omega)
    have hread := h.value depth _ hvalue (by omega) (by omega)
      (ends_cons (.inl rfl) ((compactMembers (next :: fields)).toList ++ '}' :: rest))
    rw [toList_compactMembers_cons, List.append_assoc, List.cons_append, List.append_assoc,
      List.cons_append, members_name, bind_of hread]
    exact continued_comma hmore

end ReadsBack

theorem readsBack (fuel : Nat) : ReadsBack fuel := by
  induction fuel with
  | zero =>
    -- Nothing is written with no characters.
    refine ⟨fun _ _ _ hplain hfuel => ?_, fun _ _ _ hne hplain hfuel => ?_,
      fun _ _ _ hne _ hfuel => ?_⟩
    · obtain ⟨c, text, heq, _⟩ := exists_compact_eq hplain
      rw [heq, List.length_cons] at hfuel
      omega
    · obtain ⟨item, documents, rfl⟩ := List.exists_cons_of_ne_nil hne
      obtain ⟨c, text, heq, _⟩ := exists_compactItems_eq (hplain item List.mem_cons_self) documents
      rw [heq, List.length_cons] at hfuel
      omega
    · obtain ⟨member, fields, rfl⟩ := List.exists_cons_of_ne_nil hne
      obtain ⟨text, heq⟩ := exists_compactMembers_eq member fields
      rw [heq, List.length_cons] at hfuel
      omega
  | succ fuel ih => exact ⟨ih.value_succ, ih.items_succ, ih.members_succ⟩

theorem read_compact {document : Document} (hplain : document.IsPlain)
    (hdepth : document.depth ≤ maxNesting) : read (compact document).toList = some document := by
  have hread := (readsBack (2 * (compact document).toList.length + 2)).value 0 [] hplain
    (by omega) (by omega) nofun
  rw [List.append_nil] at hread
  rw [read, readAll_eq_some_iff, bind_of hread]
  rfl

theorem depth_numeral (negative : Bool) (whole fraction exponent : List Char) :
    (numeral negative whole fraction exponent).depth = 0 := by
  dsimp only [numeral]
  split <;> split <;> rfl

theorem number_yields (limit : Nat) : Yields (fun document => document.depth ≤ limit) number :=
  .after fun _ => .after fun _ => .after fun _ => .after fun _ => .after fun _ =>
    .pure (depth_numeral .. ▸ Nat.zero_le limit)

theorem literal_yields {P : Document → Prop} (word : String) {document : Document}
    (h : P document) : Yields P (literal word document) :=
  .after fun _ => .after fun _ => .pure h

section Brackets

variable {α : Type} {P : List α → Prop} {close : Char}

theorem bracketed_yields {inner : Reader (List α)} (hnil : P []) (hinner : Yields P inner) :
    Yields P (bracketed close inner) := by
  refine .after fun _ => .after fun _ => .after fun found => ?_
  split
  · exact .pure hnil
  · exact hinner

theorem continued_yields {first : α} {more : Reader (List α)} (hnil : P [])
    (hfirst : ∀ content, P content → P (first :: content)) (hmore : Yields P more) :
    Yields P (continued close first more) := by
  refine .after fun _ => .after fun found => ?_
  split
  · exact hmore.bind fun content hcontent => .pure (hfirst content hcontent)
  · exact .after fun _ => .pure (hfirst [] hnil)

end Brackets

theorem depth_nested {depth : Nat} {document : Document}
    (h : document.depth ≤ maxNesting - (depth + 1) + 1) :
    (nested (depth + 1) document).depth ≤ maxNesting - depth := by
  unfold nested
  split
  · omega
  · exact Nat.zero_le _

/-- Inside of `depth` arrays and objects, what is read is nested no deeper than what is left. -/
structure StaysShallow (fuel : Nat) : Prop where
  value (depth : Nat) :
    Yields (fun document => document.depth ≤ maxNesting - depth) (value fuel depth)
  items (depth : Nat) :
    Yields (fun documents => Document.itemsDepth documents ≤ maxNesting - depth) (items fuel depth)
  members (depth : Nat) :
    Yields (fun fields => Document.membersDepth fields ≤ maxNesting - depth) (members fuel depth)

theorem staysShallow (fuel : Nat) : StaysShallow fuel := by
  induction fuel with
  | zero => exact ⟨fun _ => .failure, fun _ => .failure, fun _ => .failure⟩
  | succ fuel ih =>
    refine ⟨fun depth => ?_, fun depth => ?_, fun depth => ?_⟩
    · refine .after fun _ => .after fun c? => ?_
      split
      case h_1 | h_2 | h_3 => exact literal_yields _ (Nat.zero_le _)
      case h_4 =>
        refine .after fun content? => ?_
        split <;> exact .pure (Nat.zero_le _)
      case h_5 =>
        refine (bracketed_yields (Nat.zero_le _) (ih.items _)).bind fun documents hdocuments => ?_
        exact .pure (depth_nested (Nat.succ_le_succ hdocuments))
      case h_6 =>
        refine (bracketed_yields (Nat.zero_le _) (ih.members _)).bind fun fields hfields => ?_
        exact .pure (depth_nested (Nat.succ_le_succ hfields))
      case h_7 => exact number_yields _
      case h_8 => exact .failure
    · refine (ih.value depth).bind fun item hitem => ?_
      exact continued_yields (Nat.zero_le _) (fun _ h => Nat.max_le.mpr ⟨hitem, h⟩) (ih.items depth)
    · refine .after fun _ => .after fun _ => .after fun _ => .after fun _ => .after fun _ => ?_
      refine (ih.value depth).bind fun member hmember => ?_
      exact continued_yields (Nat.zero_le _) (fun _ h => Nat.max_le.mpr ⟨hmember, h⟩)
        (ih.members depth)

theorem depth_of_read {text : List Char} {document : Document} (h : read text = some document) :
    document.depth ≤ maxNesting := by
  have hyields : Yields (fun document => document.depth ≤ maxNesting)
      (do
        let document ← value (2 * text.length + 2) 0
        skipBlank
        return document) :=
    ((staysShallow _).value 0).bind fun _ hdepth => .after fun _ => .pure hdepth
  exact hyields (readAll_eq_some_iff.mp h)

end Json

end TextGrammar
