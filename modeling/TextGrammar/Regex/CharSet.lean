import TextGrammar.Unicode.Age
import TextGrammar.Unicode.CaseFold
import TextGrammar.Unicode.Classes
import TextGrammar.Unicode.Script
import TextGrammar.Unicode.Segmentation
/-!
# Sets of characters

A set is kept as the expression that describes it and is decided one character at a time, so no
operation ever lists the members of a large class.
-/
namespace TextGrammar

open Unicode

inductive NamedClass where
  | anyOf (categories : List Category)
  | script (code : String)
  | usedBy (code : String)
  | assignedBy (rank : Nat)
  | property (entry : Property)
  | word
  | whiteSpace
  | alphabetic
  | lowercase
  | uppercase
  | joinControl
  | graphemeExtend
deriving DecidableEq, Repr

def NamedClass.contains : NamedClass → Nat → Bool
  | .anyOf categories, n => categories.contains (Category.ofCodePoint n)
  | .script code, n => Script.ofCodePoint n == code
  | .usedBy code, n => (Script.usersOf n).contains code
  | .assignedBy rank, n => (Age.ofCodePoint? n).any fun age => age ≤ rank
  | .property entry, n => entry.contains n
  | .word, n => isWord n
  | .whiteSpace, n => isWhiteSpace n
  | .alphabetic, n => isAlphabetic n
  | .lowercase, n => isLowercase n
  | .uppercase, n => isUppercase n
  | .joinControl, n => isJoinControl n
  | .graphemeExtend, n => isGraphemeExtend n

inductive CharSet where
  | range (first last : Nat)
  | named (name : NamedClass)
  | compl (set : CharSet)
  | union (left right : CharSet)
  | inter (left right : CharSet)
  | diff (left right : CharSet)
  | symmDiff (left right : CharSet)
  /-- Every case variant of a member is a member too. -/
  | folded (set : CharSet)
  /-- As `folded`, for ASCII letters only. -/
  | asciiFolded (set : CharSet)
  /-- The members that are bytes by themselves. Where Unicode is off classes are made of bytes. -/
  | bytes (set : CharSet)
deriving DecidableEq, Repr

namespace CharSet

def empty : CharSet := .range 1 0

def all : CharSet := .range 0 0x10ffff

def single (c : Char) : CharSet := .range c.toNat c.toNat

def ofList (sets : List CharSet) : CharSet :=
  match sets with
  | [] => empty
  | set :: sets => sets.foldl union set

def contains : CharSet → Nat → Bool
  | .range first last, n => first ≤ n && n ≤ last
  | .named name, n => name.contains n
  | .compl set, n => !set.contains n
  | .union left right, n => left.contains n || right.contains n
  | .inter left right, n => left.contains n && right.contains n
  | .diff left right, n => left.contains n && !right.contains n
  | .symmDiff left right, n => left.contains n != right.contains n
  | .folded set, n => set.contains n || (caseVariants n).any fun v => set.contains v
  | .asciiFolded set, n => set.contains n || (asciiCaseVariants n).any fun v => set.contains v
  | .bytes set, n => n < 128 && set.contains n

def has (set : CharSet) (c : Char) : Bool := set.contains c.toNat

@[simp] theorem has_single (c d : Char) : (single c).has d = (d == c) := by
  rw [Bool.eq_iff_iff]
  simp only [has, single, contains, Bool.and_eq_true, decide_eq_true_eq, beq_iff_eq]
  constructor
  · intro h
    exact Char.ext (UInt32.toNat_inj.mp (Nat.le_antisymm h.2 h.1))
  · rintro rfl
    exact ⟨Nat.le_refl _, Nat.le_refl _⟩

theorem has_ofList {sets : List CharSet} {c : Char} :
    (ofList sets).has c = true ↔ ∃ set ∈ sets, set.has c = true := by
  have hfold (first : CharSet) (sets : List CharSet) :
      (sets.foldl union first).has c = true ↔ ∃ set ∈ first :: sets, set.has c = true := by
    induction sets generalizing first with
    | nil => simp
    | cons set sets ih =>
      rw [List.foldl_cons, ih]
      simp [has, contains, or_assoc]
  cases sets with
  | nil => simp [ofList, empty, has, contains]; omega
  | cons first sets => exact hfold first sets

def leastFrom? (fits : Nat → Bool) : (fuel n : Nat) → Option Nat
  | 0, _ => none
  | fuel + 1, n => if n.isValidChar ∧ fits n then some n else leastFrom? fits fuel (n + 1)

def agrees (left right : CharSet) : Bool :=
  left = right ∨ leastFrom? (fun n => left.contains n != right.contains n) 0x110000 0 = none

theorem eq_false_of_leastFrom? {fits : Nat → Bool} {fuel n k : Nat}
    (h : leastFrom? fits fuel n = none) (hvalid : k.isValidChar) (hle : n ≤ k)
    (hlt : k < n + fuel) : fits k = false := by
  induction fuel generalizing n with
  | zero => omega
  | succ fuel ih =>
    rw [leastFrom?] at h
    split at h
    · cases h
    · next hnot =>
      by_cases hk : k = n
      · subst hk
        simpa [hvalid] using hnot
      · exact ih h (by omega) (by omega)

theorem has_eq_of_agrees {left right : CharSet} (h : left.agrees right = true) (c : Char) :
    left.has c = right.has c := by
  rcases of_decide_eq_true h with rfl | hnone
  · rfl
  · have hlt : c.toNat < 0 + 0x110000 := by
      rcases c.valid with hc | ⟨_, hc⟩
      · exact Nat.lt_trans hc (by decide)
      · simpa using hc
    have hsame := eq_false_of_leastFrom? hnone c.valid (Nat.zero_le _) hlt
    simpa [has] using hsame

def sizeUpToTwo : CharSet → Nat
  | .range first last => Nat.min (last + 1 - first) 2
  | set =>
    match leastFrom? set.contains 0x110000 0 with
    | none => 0
    | some first => if (leastFrom? set.contains 0x110000 (first + 1)).isSome then 2 else 1

/-- A set with one member stands for that character and not for a class. -/
def isLiteral (set : CharSet) : Bool := set.sizeUpToTwo = 1

def isBytes : CharSet → Bool
  | .bytes _ => true
  | _ => false

/-- Classes of bytes and of characters are told apart, unless they have no use for it. -/
def isSame (left right : CharSet) : Bool :=
  left.agrees right && (left.sizeUpToTwo < 2 || left.isBytes == right.isBytes)

end CharSet

end TextGrammar
