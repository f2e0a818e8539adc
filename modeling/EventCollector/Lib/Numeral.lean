import EventCollector.Lib.Ascii

/-!
The integer that a text begins with, as `strtol` looks for it in base ten: blanks, a sign
and the longest row of digits. What follows is not read.
-/

namespace Numeral

open Ascii

/-- `isspace` in the locale in which a program starts. -/
def isSpace (letter : UInt8) : Bool := letter = 32 || 9 ≤ letter.toNat && letter.toNat ≤ 13

def isDigit (letter : UInt8) : Bool := decide (IsDigit letter)

/-- Whether there is a minus, and what comes after the sign. -/
def sign : Text → Bool × Text
  | 45 :: rest => (true, rest)
  | 43 :: rest => (false, rest)
  | text => (false, text)

/-- The sign and the magnitude. -/
def scan (text : Text) : Option (Bool × Nat) :=
  let signed := sign (text.dropWhile isSpace)
  (readDecimal (signed.2.takeWhile isDigit)).map (signed.1, ·)

/-! The grammar. -/

inductive Signed : Bool → Text → Prop
  | bare : Signed false []
  | plus : Signed false [43]
  | minus : Signed true [45]

def Begins (text : Text) (negative : Bool) (magnitude : Nat) : Prop :=
  ∃ blanks mark digits rest, text = blanks ++ (mark ++ (digits ++ rest)) ∧
    (∀ letter ∈ blanks, isSpace letter = true) ∧ Signed negative mark ∧
    readDecimal digits = some magnitude ∧ ∀ letter ∈ rest.head?, isDigit letter = false

theorem takeWhile_front {test : UInt8 → Bool} {front back : Text}
    (inside : ∀ letter ∈ front, test letter = true)
    (outside : ∀ letter ∈ back.head?, test letter = false) :
    (front ++ back).takeWhile test = front ∧ (front ++ back).dropWhile test = back := by
  rw [List.takeWhile_append_of_pos inside, List.dropWhile_append_of_pos inside]
  cases back with
  | nil => simp
  | cons letter back =>
      have other := outside letter (by simp)
      simp [other]

theorem readDecimal_some {digits : Text} {number : Nat} (read : readDecimal digits = some number) :
    digits ≠ [] ∧ ∀ letter ∈ digits, isDigit letter = true := by
  simp only [readDecimal, Option.ite_none_right_eq_some, Bool.and_eq_true, Bool.not_eq_true',
    List.isEmpty_eq_false_iff, List.all_eq_true] at read
  exact read.1

theorem digit_plain {letter : UInt8} (digit : isDigit letter = true) :
    isSpace letter = false ∧ letter ≠ 45 ∧ letter ≠ 43 := by
  have bounds : IsDigit letter := of_decide_eq_true digit
  unfold IsDigit at bounds
  refine ⟨?_, ?_, ?_⟩
  · have other : letter ≠ 32 := by
      rintro rfl
      simp at bounds
    simp only [isSpace, other, decide_false, Bool.false_or, Bool.and_eq_false_iff,
      decide_eq_false_iff_not]
    omega
  · rintro rfl
    simp at bounds
  · rintro rfl
    simp at bounds

/-- A sign before digits is found. -/
theorem sign_signed {negative : Bool} {mark digits : Text} (rest : Text)
    (signed : Signed negative mark) (filled : digits ≠ [])
    (all : ∀ letter ∈ digits, isDigit letter = true) :
    sign (mark ++ (digits ++ rest)) = (negative, digits ++ rest) ∧
      ∀ letter ∈ (mark ++ (digits ++ rest)).head?, isSpace letter = false := by
  obtain ⟨first, others, rfl⟩ := List.exists_cons_of_ne_nil filled
  obtain ⟨outside, minus, plus⟩ := digit_plain (all first (by simp))
  cases signed with
  | bare =>
      refine ⟨?_, by simp [outside]⟩
      simp only [List.nil_append, List.cons_append]
      unfold sign
      split
      · rename_i same
        exact absurd (List.cons.inj same).1 minus
      · rename_i same
        exact absurd (List.cons.inj same).1 plus
      · rfl
  | plus => exact ⟨rfl, by simp [isSpace]⟩
  | minus => exact ⟨rfl, by simp [isSpace]⟩

theorem signed_sign (text : Text) :
    ∃ mark, Signed (sign text).1 mark ∧ text = mark ++ (sign text).2 := by
  unfold sign
  split
  · exact ⟨[45], .minus, rfl⟩
  · exact ⟨[43], .plus, rfl⟩
  · exact ⟨[], .bare, rfl⟩

theorem scan_iff (text : Text) (negative : Bool) (magnitude : Nat) :
    scan text = some (negative, magnitude) ↔ Begins text negative magnitude := by
  constructor
  · intro found
    simp only [scan, Option.map_eq_some_iff, Prod.mk.injEq] at found
    obtain ⟨_, read, rfl, rfl⟩ := found
    obtain ⟨mark, signed, whole⟩ := signed_sign (text.dropWhile isSpace)
    refine ⟨text.takeWhile isSpace, mark, _, (sign (text.dropWhile isSpace)).2.dropWhile isDigit,
      ?_, List.all_eq_true.mp List.all_takeWhile, signed, read, ?_⟩
    · rw [List.takeWhile_append_dropWhile, ← whole, List.takeWhile_append_dropWhile]
    · intro letter member
      have outside := List.head?_dropWhile_not isDigit (sign (text.dropWhile isSpace)).2
      rw [Option.mem_def.mp member] at outside
      exact outside
  · rintro ⟨blanks, mark, digits, rest, rfl, spaces, signed, read, ends⟩
    obtain ⟨filled, all⟩ := readDecimal_some read
    obtain ⟨found, outside⟩ := sign_signed rest signed filled all
    rw [scan, (takeWhile_front spaces outside).2, found]
    simp only [(takeWhile_front all ends).1, read, Option.map_some]

end Numeral
