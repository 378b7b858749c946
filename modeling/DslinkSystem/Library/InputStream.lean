import DslinkSystem.Library.TextScan

/-!
# Formatted input from a line

`std::istringstream` over a line, and its operator `>>` for a word and for an unsigned number.
A stream that failed once fails from then on, and leaves alone what is read into. So does
one that has nothing but blanks left.

A list of numbers takes one each from the stream (`length_extractNumbers`). Numbers that are
written with blanks before each of them are read back, and what is asked for beyond them is zero
(`extractNumbers_written`).
-/

set_option autoImplicit false

namespace TextScan

/-- What is left of a stream. Nothing is left of one that failed. -/
abbrev InputStream := Option Text

/-- `stream >> word`, for an empty word. -/
def extractWord (stream : InputStream) : Text × InputStream :=
  match stream with
  | none => ([], none)
  | some text =>
      let text := text.dropWhile isSpace
      if text = [] then ([], none)
      else (text.takeWhile (!isSpace ·), some (text.dropWhile (!isSpace ·)))

/-- `stream >> number`, for an unsigned number of 64 bits that was `old`. Without digits it
becomes zero and the stream fails; a number that is too large becomes the largest one and
the stream fails. -/
def extractNumber (old : UInt64) (stream : InputStream) : UInt64 × InputStream :=
  match stream with
  | none => (old, none)
  | some text =>
      let text := text.dropWhile isSpace
      let digits := (text.drop (sign text).2).takeWhile Char.isDigit
      let magnitude := Nat.ofDigitChars 10 digits 0
      if text = [] then (old, none)
      else if digits = [] then (0, none)
      else if 2 ^ 64 ≤ magnitude then (UInt64.ofNat (2 ^ 64 - 1), none)
      else
        (if (sign text).1 then -UInt64.ofNat magnitude else UInt64.ofNat magnitude,
          some (text.drop ((sign text).2 + digits.length)))

/-- `stream >> number` for each of some numbers in turn, all zero before. -/
def extractNumbers : ℕ → InputStream → List UInt64
  | 0, _ => []
  | n + 1, stream => (extractNumber 0 stream).1 :: extractNumbers n (extractNumber 0 stream).2

theorem length_extractNumbers (n : ℕ) (stream : InputStream) :
    (extractNumbers n stream).length = n := by
  induction n generalizing stream with
  | zero => rfl
  | succ n ih => rw [extractNumbers, List.length_cons, ih]

/-! ## Words and numbers that were written -/

/-- A word is taken up to the blank that follows it. -/
theorem extractWord_append {word rest : Text} (nonempty : word ≠ [])
    (solid : ∀ c ∈ word, isSpace c = false) (ends : ∀ c ∈ rest.head?, isSpace c = true) :
    extractWord (some (word ++ rest)) = (word, some rest) := by
  obtain ⟨c, word', rfl⟩ := List.exists_cons_of_ne_nil nonempty
  have kept : ((c :: word') ++ rest).dropWhile isSpace = (c :: word') ++ rest := by
    simp [solid c List.mem_cons_self]
  have solid' : ∀ d ∈ c :: word', (!isSpace d) = true := by
    intro d member
    simp [solid d member]
  have taken : rest.takeWhile (!isSpace ·) = [] ∧ rest.dropWhile (!isSpace ·) = rest := by
    cases rest with
    | nil => exact ⟨rfl, rfl⟩
    | cons d rest =>
        have blank : isSpace d = true := ends d rfl
        simp [blank]
  simp only [extractWord, kept, if_neg (List.append_ne_nil_of_left_ne_nil nonempty rest),
    List.takeWhile_append_of_pos solid', List.dropWhile_append_of_pos solid', taken.1, taken.2,
    List.append_nil]

/-- A number as it is written in a line: blanks, at least one, and digits. -/
structure WrittenNumber where
  blanks : Text
  apart : blanks ≠ []
  blank : ∀ c ∈ blanks, isSpace c = true
  numeral : Numeral
  small : numeral.value < 2 ^ 64

namespace WrittenNumber

def text (number : WrittenNumber) : Text := number.blanks ++ number.numeral.digits

def value (number : WrittenNumber) : UInt64 := UInt64.ofNat number.numeral.value

/-- It begins with a blank. -/
theorem exists_cons (number : WrittenNumber) :
    ∃ c rest, number.text = c :: rest ∧ isSpace c = true := by
  obtain ⟨c, blanks, shape⟩ := List.exists_cons_of_ne_nil number.apart
  refine ⟨c, blanks ++ number.numeral.digits, ?_, ?_⟩
  · rw [text, shape, List.cons_append]
  · exact number.blank c (shape ▸ List.mem_cons_self)

end WrittenNumber

/-- **A number is read back.** -/
theorem extractNumber_written (old : UInt64) (number : WrittenNumber) {rest : Text}
    (first : NoDigitFirst rest) :
    extractNumber old (some (number.text ++ rest)) = (number.value, some rest) := by
  have skipped : (number.text ++ rest).dropWhile isSpace = number.numeral.digits ++ rest := by
    obtain ⟨c, digits, shape, digit⟩ := number.numeral.exists_cons
    rw [WrittenNumber.text, List.append_assoc, List.dropWhile_append_of_pos number.blank, shape]
    simp [not_isSpace_of_isDigit digit]
  have there : number.numeral.digits ++ rest ≠ [] :=
    List.append_ne_nil_of_left_ne_nil number.numeral.nonempty rest
  have within : ¬ 2 ^ 64 ≤ Nat.ofDigitChars 10 number.numeral.digits 0 :=
    Nat.not_le.mpr number.small
  simp only [extractNumber, skipped, number.numeral.sign_append, List.drop_zero,
    number.numeral.takeWhile_append first, if_neg there, if_neg number.numeral.nonempty,
    if_neg within]
  simp [WrittenNumber.value, Numeral.value]

/-- What is written begins with no digit: a blank stands before each number. -/
theorem noDigitFirst_flatMap (numbers : List WrittenNumber) :
    NoDigitFirst (numbers.flatMap WrittenNumber.text) := by
  cases numbers with
  | nil => exact NoDigitFirst.nil
  | cons number numbers =>
      obtain ⟨c, rest, shape, blank⟩ := number.exists_cons
      have other : c.isDigit = false := by
        refine Bool.eq_false_iff.mpr fun digit => ?_
        rw [not_isSpace_of_isDigit digit] at blank
        cases blank
      rw [List.flatMap_cons, shape]
      exact NoDigitFirst.cons other _

/-- A stream that failed reads nothing. -/
theorem extractNumbers_none (n : ℕ) : extractNumbers n none = List.replicate n 0 := by
  induction n with
  | zero => rfl
  | succ n ih =>
      rw [extractNumbers, List.replicate_succ]
      exact congrArg (0 :: ·) ih

/-- Nor does one that is at its end. -/
theorem extractNumbers_nil (n : ℕ) : extractNumbers n (some []) = List.replicate n 0 := by
  cases n with
  | zero => rfl
  | succ n => exact extractNumbers_none (n + 1)

/-- **Numbers are read back**, and the others are zero. -/
theorem extractNumbers_written (numbers : List WrittenNumber) (n : ℕ) :
    extractNumbers (numbers.length + n) (some (numbers.flatMap WrittenNumber.text)) =
      numbers.map WrittenNumber.value ++ List.replicate n 0 := by
  induction numbers with
  | nil =>
      rw [List.length_nil, Nat.zero_add]
      exact extractNumbers_nil n
  | cons number numbers ih =>
      have read := extractNumber_written 0 number (noDigitFirst_flatMap numbers)
      rw [List.length_cons, Nat.add_right_comm, List.flatMap_cons, extractNumbers, read, ih,
        List.map_cons, List.cons_append]

end TextScan
