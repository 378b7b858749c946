import DslinkSystem.Library.TextScan

/-!
# Chains of numbers

Programs take the parts of a text such as `1.2.3` by calls of `strtoul`, each of which starts
one character after the end of the number before. Nothing stands there when the text ends with
that number, and a call has no text to start from.

A chain reads back numerals with a character between each two (`readFurther_separated`). What it
reads beyond them is zero under a condition on the rest of the text (`readFurther_zeros_iff`).
-/

set_option autoImplicit false

namespace TextScan

/-! ## The number that a text begins with -/

/-- The digits that a text begins with, after blanks and a sign. -/
def leadingDigits (text : Text) : Text :=
  let rest := text.drop (text.takeWhile isSpace).length
  (rest.drop (sign rest).2).takeWhile Char.isDigit

/-- The number that a text begins with, without its sign. -/
def leadingNumber (text : Text) : ℕ := Nat.ofDigitChars 10 (leadingDigits text) 0

/-- What stands after the number that a text begins with. -/
def afterNumber (text : Text) : Text := text.drop (strtoul text).length

/-- The value that `strtoul` gives: the largest one for a number that is too large, and else the
number or its negative. -/
theorem strtoul_value (text : Text) :
    ∃ negative : Bool, (strtoul text).value =
      if 2 ^ 64 ≤ leadingNumber text then UInt64.ofNat (2 ^ 64 - 1)
      else if negative then -UInt64.ofNat (leadingNumber text)
      else UInt64.ofNat (leadingNumber text) := by
  refine ⟨(sign (text.drop (text.takeWhile isSpace).length)).1, ?_⟩
  by_cases none_read : leadingDigits text = []
  · have zero : leadingNumber text = 0 := by rw [leadingNumber, none_read]; rfl
    have nothing : strtoul text = ⟨0, 0⟩ := if_pos none_read
    rw [zero, nothing]
    simp
  · have read : strtoul text = _ := if_neg none_read
    rw [read]
    rfl

theorem strtoul_value_eq_zero_iff {text : Text} :
    (strtoul text).value = 0 ↔ leadingNumber text = 0 := by
  obtain ⟨negative, value⟩ := strtoul_value text
  rw [value, ← UInt64.toNat_inj]
  split
  · simp
    omega
  · next small =>
      have kept : (UInt64.ofNat (leadingNumber text)).toNat = leadingNumber text :=
        UInt64.toNat_ofNat_of_lt' (Nat.not_le.mp small)
      split
      · rw [UInt64.toNat_neg, kept, UInt64.toNat_zero, UInt64.size]
        omega
      · rw [kept, UInt64.toNat_zero]

/-- In 32 bits more numbers are zero. -/
theorem strtoul_toUInt32_eq_zero_iff {text : Text} :
    (strtoul text).value.toUInt32 = 0 ↔
      leadingNumber text < 2 ^ 64 ∧ leadingNumber text % 2 ^ 32 = 0 := by
  obtain ⟨negative, value⟩ := strtoul_value text
  rw [value, ← UInt32.toNat_inj, UInt64.toNat_toUInt32, UInt32.toNat_zero]
  split
  · simp
    omega
  · next small =>
      have kept : (UInt64.ofNat (leadingNumber text)).toNat = leadingNumber text :=
        UInt64.toNat_ofNat_of_lt' (Nat.not_le.mp small)
      split
      · rw [UInt64.toNat_neg, kept, UInt64.size]
        omega
      · rw [kept]
        omega

/-- Nothing is read from a text that begins with no digit, blank or sign. -/
theorem strtoul_of_other {c : Char} (notDigit : c.isDigit = false) (notBlank : isSpace c = false)
    (notMinus : c ≠ '-') (notPlus : c ≠ '+') (rest : Text) : strtoul (c :: rest) = ⟨0, 0⟩ := by
  have unsigned : sign (c :: rest) = (false, 0) := by
    unfold sign
    split
    · next same => exact absurd (List.cons.inj same).1 notMinus
    · next same => exact absurd (List.cons.inj same).1 notPlus
    · rfl
  have none_read : leadingDigits (c :: rest) = [] := by
    simp [leadingDigits, notBlank, unsigned, notDigit]
  exact if_pos none_read

/-! ## Numbers one after another -/

/-- Some more numbers of a chain, where the text is what stands after the number before. -/
def readFurther : ℕ → Text → Option (List UInt64)
  | 0, _ => some []
  | _ + 1, [] => none
  | n + 1, _ :: rest => (readFurther n (afterNumber rest)).map ((strtoul rest).value :: ·)

theorem length_readFurther {n : ℕ} {text : Text} {numbers : List UInt64}
    (read : readFurther n text = some numbers) : numbers.length = n := by
  induction n generalizing text numbers with
  | zero =>
      obtain rfl := Option.some.inj read
      rfl
  | succ n ih =>
      cases text with
      | nil => cases read
      | cons c rest =>
          obtain ⟨later, read', rfl⟩ := Option.map_eq_some_iff.mp read
          rw [List.length_cons, ih read']

/-- A numeral after a character. -/
structure Separated where
  separator : Char
  apart : separator.isDigit = false
  numeral : Numeral
  small : numeral.value < 2 ^ 64

namespace Separated

def text (part : Separated) : Text := part.separator :: part.numeral.digits

def value (part : Separated) : UInt64 := UInt64.ofNat part.numeral.value

end Separated

/-- Parts, each of which begins with a character that is no digit, and what follows them. -/
theorem noDigitFirst_parts (parts : List Separated) {ending : Text} (first : NoDigitFirst ending) :
    NoDigitFirst (parts.flatMap Separated.text ++ ending) := by
  cases parts with
  | nil => exact first
  | cons part parts =>
      rw [List.flatMap_cons, Separated.text, List.cons_append, List.cons_append]
      exact NoDigitFirst.cons part.apart _

/-- What `strtoul` reads of a numeral, and what it leaves. -/
theorem strtoul_numeral (numeral : Numeral) (small : numeral.value < 2 ^ 64) {rest : Text}
    (first : NoDigitFirst rest) :
    (strtoul (numeral.digits ++ rest)).value = UInt64.ofNat numeral.value ∧
      afterNumber (numeral.digits ++ rest) = rest := by
  rw [afterNumber, numeral.strtoul_digits small first]
  exact ⟨rfl, List.drop_left⟩

/-- **Separated numerals are read back.** -/
theorem readFurther_separated (parts : List Separated) (n : ℕ) {ending : Text}
    (first : NoDigitFirst ending) :
    readFurther (parts.length + n) (parts.flatMap Separated.text ++ ending) =
      (readFurther n ending).map (parts.map Separated.value ++ ·) := by
  induction parts with
  | nil => simp
  | cons part parts ih =>
      obtain ⟨value, after⟩ :=
        strtoul_numeral part.numeral part.small (noDigitFirst_parts parts first)
      rw [List.length_cons, Nat.add_right_comm, List.flatMap_cons, Separated.text,
        List.cons_append, List.cons_append, List.append_assoc, readFurther, value, after, ih,
        Option.map_map]
      rfl

/-- Some more numbers are zero: a character follows the number before, and what stands after it
reads as zero. -/
def ReadsZeros (isZero : ℕ → Prop) : ℕ → Text → Prop
  | 0, _ => True
  | _ + 1, [] => False
  | n + 1, _ :: rest => isZero (leadingNumber rest) ∧ ReadsZeros isZero n (afterNumber rest)

/-- **The numbers beyond those that are written are zero** exactly when the text reads as zeros.
They may be converted to another type. -/
theorem readFurther_zeros_iff {α : Type} {convert : UInt64 → α} {isZero : ℕ → Prop}
    (zero_iff : ∀ text, convert (strtoul text).value = convert 0 ↔ isZero (leadingNumber text))
    (n : ℕ) (text : Text) :
    (readFurther n text).map (·.map convert) = some (List.replicate n (convert 0)) ↔
      ReadsZeros isZero n text := by
  induction n generalizing text with
  | zero => simp [readFurther, ReadsZeros]
  | succ n ih =>
      cases text with
      | nil => simp [readFurther, ReadsZeros]
      | cons c rest =>
          rw [ReadsZeros, ← ih, ← zero_iff, readFurther, Option.map_map]
          cases later : readFurther n (afterNumber rest) with
          | none => simp
          | some numbers => simp [List.replicate_succ]

end TextScan
