import EventCollector.Lib.Split

/-!
Texts as ASCII bytes: decimal numbers, the last field of a line, and the lines of a
text as `splitlines` of Python finds them.
-/

namespace Ascii

open Split

abbrev Text := List UInt8

def letter (char : Char) : UInt8 := UInt8.ofNat char.toNat

def ascii (text : String) : Text := text.toList.map letter

def Printable (text : Text) : Prop := ∀ letter ∈ text, 32 ≤ letter.toNat ∧ letter.toNat < 127

instance (text : Text) : Decidable (Printable text) :=
  List.decidableBAll (fun letter : UInt8 => 32 ≤ letter.toNat ∧ letter.toNat < 127) text

theorem Printable.append {first second : Text} (one : Printable first) (other : Printable second) :
    Printable (first ++ second) := by
  intro letter member
  rcases List.mem_append.mp member with before | after
  · exact one letter before
  · exact other letter after

theorem Printable.notMem {text : Text} (printable : Printable text) {letter : UInt8}
    (control : letter.toNat < 32) : letter ∉ text := by
  intro member
  have bounds := printable letter member
  omega

/-! Decimal numbers. -/

def decimal (number : Nat) : Text := (Nat.toDigits 10 number).map letter

def IsDigit (letter : UInt8) : Prop := 48 ≤ letter.toNat ∧ letter.toNat ≤ 57

instance (letter : UInt8) : Decidable (IsDigit letter) :=
  inferInstanceAs (Decidable (48 ≤ letter.toNat ∧ letter.toNat ≤ 57))

def readDecimal (text : Text) : Option Nat :=
  if !text.isEmpty && text.all (fun letter => decide (IsDigit letter)) then
    some (text.foldl (fun value letter => 10 * value + (letter.toNat - 48)) 0)
  else none

theorem toNat_letter {char : Char} (digit : char.isDigit) :
    (letter char).toNat = char.toNat ∧ IsDigit (letter char) := by
  have bounds : 48 ≤ char.toNat ∧ char.toNat ≤ 57 := by
    simp only [Char.isDigit, Bool.and_eq_true, decide_eq_true_eq, ge_iff_le,
      UInt32.le_iff_toNat_le] at digit
    exact digit
  have same : (letter char).toNat = char.toNat :=
    Nat.mod_eq_of_lt (show char.toNat < 256 by omega)
  exact ⟨same, by rw [IsDigit, same]; exact bounds⟩

theorem decimal_digits (number : Nat) : ∀ letter ∈ decimal number, IsDigit letter := by
  intro found member
  obtain ⟨char, digit, rfl⟩ := List.mem_map.mp member
  exact (toNat_letter (Nat.isDigit_of_mem_toDigits (by omega) (by omega) digit)).2

theorem decimal_nonempty (number : Nat) : decimal number ≠ [] := by
  intro empty
  exact Nat.toDigits_ne_nil (List.map_eq_nil_iff.mp empty)

theorem decimal_printable (number : Nat) : Printable (decimal number) := by
  intro letter member
  have digit := decimal_digits number letter member
  unfold IsDigit at digit
  omega

theorem foldl_letter (value : Nat) : ∀ chars : List Char, (∀ char ∈ chars, char.isDigit) →
    (chars.map letter).foldl (fun value letter => 10 * value + (letter.toNat - 48)) value =
      Nat.ofDigitChars 10 chars value := by
  intro chars digits
  induction chars generalizing value with
  | nil => rfl
  | cons char chars ih =>
      rw [List.map_cons, List.foldl_cons, Nat.ofDigitChars_cons,
        (toNat_letter (digits char (by simp))).1]
      exact ih _ fun later member => digits later (by simp [member])

theorem readDecimal_decimal (number : Nat) : readDecimal (decimal number) = some number := by
  have filled : (decimal number).isEmpty = false := by
    simpa using decimal_nonempty number
  have digits : (decimal number).all (fun letter => decide (IsDigit letter)) = true := by
    simpa using decimal_digits number
  have value : (decimal number).foldl (fun value letter => 10 * value + (letter.toNat - 48)) 0 =
      number := by
    rw [decimal, foldl_letter, Nat.ofDigitChars_ten_toDigits]
    intro char member
    exact Nat.isDigit_of_mem_toDigits (by omega) (by omega) member
  rw [readDecimal, filled, digits, value]
  rfl

/-! The last field of a line. -/

def splitLast (mark : UInt8) : Text → Option (Text × Text)
  | [] => none
  | letter :: rest =>
      match splitLast mark rest with
      | some (before, after) => some (letter :: before, after)
      | none => if letter = mark then some ([], rest) else none

theorem splitLast_none {mark : UInt8} {text : Text} (absent : mark ∉ text) :
    splitLast mark text = none := by
  induction text with
  | nil => rfl
  | cons letter text ih =>
      have other : letter ≠ mark := by
        rintro rfl
        simp at absent
      have later := ih fun member => absent (List.mem_cons_of_mem letter member)
      simp only [splitLast, later, other, if_false]

theorem splitLast_append {mark : UInt8} {after : Text} (absent : mark ∉ after) (before : Text) :
    splitLast mark (before ++ mark :: after) = some (before, after) := by
  induction before with
  | nil => simp [splitLast, splitLast_none absent]
  | cons letter before ih => simp only [List.cons_append, splitLast, ih]

/-! Lines. -/

/-- The ASCII letters at which `splitlines` cuts. -/
def IsBoundary (letter : UInt8) : Prop := letter ∈ [10, 11, 12, 13, 28, 29, 30]

instance (letter : UInt8) : Decidable (IsBoundary letter) :=
  inferInstanceAs (Decidable (letter ∈ [10, 11, 12, 13, 28, 29, 30]))

/-- `returned` is whether the last letter was a carriage return: it and a line feed
are one boundary. -/
def cutLines : Bool → Text → Text → List Text
  | _, field, [] => if field = [] then [] else [field]
  | returned, field, letter :: rest =>
      if returned ∧ letter = 10 then cutLines false field rest
      else if IsBoundary letter then field :: cutLines (letter = 13) [] rest
      else cutLines false (field ++ [letter]) rest

def splitlines (text : Text) : List Text := cutLines false [] text

theorem cutLines_line {line : Text} (printable : Printable line) (field rest : Text) :
    cutLines false field (line ++ 10 :: rest) = (field ++ line) :: cutLines false [] rest := by
  induction line generalizing field with
  | nil => simp [cutLines, IsBoundary]
  | cons letter line ih =>
      have plain : ¬ IsBoundary letter := by
        have bounds := printable letter (by simp)
        intro boundary
        simp only [IsBoundary, List.mem_cons, List.not_mem_nil, or_false] at boundary
        rcases boundary with rfl | rfl | rfl | rfl | rfl | rfl | rfl <;> simp at bounds
      have later := ih (fun other member => printable other (by simp [member])) (field ++ [letter])
      simp only [List.cons_append, cutLines, Bool.false_eq_true, false_and, if_false, plain, later,
        List.append_assoc, List.nil_append]

theorem splitlines_terminate {lines : List Text} (printable : ∀ line ∈ lines, Printable line) :
    splitlines (terminate [10] lines) = lines := by
  induction lines with
  | nil => rfl
  | cons line lines ih =>
      have first := cutLines_line (printable line (by simp)) [] (terminate [10] lines)
      have later := ih fun other member => printable other (by simp [member])
      have shape : terminate [10] (line :: lines) = line ++ 10 :: terminate [10] lines := by
        simp [terminate]
      rw [splitlines, shape, first, List.nil_append]
      exact congrArg _ later

end Ascii
