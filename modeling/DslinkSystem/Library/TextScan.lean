import Mathlib.Algebra.Ring.Nat
import Mathlib.Data.List.TakeWhile
import Mathlib.Data.List.Infix
import Mathlib.Tactic.Common

/-!
# Scanning lines of text

A byte is a character, and a line of text is a list of them. This module has what C++
programs use to take a line apart: the test that it begins with a key, the search for one
of several characters, pointers into the line, `strtoul`, and decimal numbers.

A search that finds nothing gives `npos`, which has no pointer, and whose successor is
the beginning of the line. A pointer may be to the end of the line, where its terminator
stands, and not beyond. `strtoul` reads a decimal number back (`strtoul_decimal`), also one with
zeros in front (`Numeral.strtoul_append`), and never reads beyond the text
(`length_strtoul_le`).
-/

set_option autoImplicit false

namespace TextScan

/-- The characters of a line, without a terminator. -/
abbrev Text := List Char

/-! ## Keys and searches -/

/-- `line.find(key) == 0`. -/
def startsWith (key line : Text) : Bool := key.isPrefixOf line

/-- `line.find_first_of(chars)`; nothing is `npos`. -/
def findFirstOf (chars line : Text) : Option ℕ := line.findIdx? fun c => decide (c ∈ chars)

/-- `line.find_first_not_of(chars, start)`. -/
def findFirstNotOf (chars line : Text) (start : ℕ) : Option ℕ :=
  ((line.drop start).findIdx? fun c => decide (c ∉ chars)).map (start + ·)

/-- The successor of a position, which is zero for `npos`: the largest number of its type wraps.
So `line.c_str() + npos + 1` is taken for the beginning of the line, though `line.c_str() + npos`
alone is no pointer (`pointerTo`). -/
def next : Option ℕ → ℕ
  | some i => i + 1
  | none => 0

theorem startsWith_iff {key line : Text} :
    startsWith key line = true ↔ ∃ rest, line = key ++ rest := by
  rw [startsWith, List.isPrefixOf_iff_prefix]
  constructor
  · rintro ⟨rest, rfl⟩
    exact ⟨rest, rfl⟩
  · rintro ⟨rest, rfl⟩
    exact ⟨rest, rfl⟩

@[simp] theorem startsWith_append (key rest : Text) : startsWith key (key ++ rest) = true :=
  startsWith_iff.mpr ⟨rest, rfl⟩

/-- Of two keys that begin a line, one begins the other. -/
theorem startsWith_of_startsWith {key other line : Text} (first : startsWith key line = true)
    (second : startsWith other line = true) :
    startsWith key other = true ∨ startsWith other key = true := by
  simp only [startsWith, List.isPrefixOf_iff_prefix] at *
  exact List.prefix_or_prefix_of_prefix first second

/-- A line does not begin with two keys neither of which begins the other. -/
theorem startsWith_eq_false {key other line : Text} (begins : startsWith key line = true)
    (apart : startsWith key other = false ∧ startsWith other key = false) :
    startsWith other line = false := by
  refine Bool.eq_false_iff.mpr fun begins' => ?_
  rcases startsWith_of_startsWith begins begins' with first | second
  · rw [apart.1] at first
    cases first
  · rw [apart.2] at second
    cases second

/-- A key without a character is found before the first one, if at all. -/
theorem startsWith_append_cons {key : Text} {c : Char} (absent : c ∉ key) (before after : Text) :
    startsWith key (before ++ c :: after) = startsWith key before := by
  induction key generalizing before with
  | nil => rfl
  | cons d key ih =>
      have other : d ≠ c := fun same => absent (same ▸ List.mem_cons_self)
      have later : c ∉ key := fun member => absent (List.mem_cons_of_mem _ member)
      cases before with
      | nil => simp [startsWith, List.isPrefixOf, other]
      | cons e before => exact congrArg (d == e && ·) (ih later before)

theorem findFirstOf_lt {chars line : Text} {i : ℕ} (found : findFirstOf chars line = some i) :
    i < line.length :=
  (List.findIdx?_eq_some_iff_getElem.mp found).1

theorem findFirstNotOf_lt {chars line : Text} {start i : ℕ}
    (found : findFirstNotOf chars line start = some i) : i < line.length := by
  obtain ⟨j, found', rfl⟩ := Option.map_eq_some_iff.mp found
  have within := (List.findIdx?_eq_some_iff_getElem.mp found').1
  rw [List.length_drop] at within
  omega

theorem findFirstOf_eq_none_iff {chars line : Text} :
    findFirstOf chars line = none ↔ ∀ c ∈ line, c ∉ chars := by
  simp [findFirstOf]

/-- The first of the characters is found right after what has none of them. -/
theorem findFirstOf_append {chars before after : Text} {c : Char}
    (none_before : ∀ d ∈ before, d ∉ chars) (found : c ∈ chars) :
    findFirstOf chars (before ++ c :: after) = some before.length := by
  have skipped : before.findIdx? (fun d => decide (d ∈ chars)) = none := by
    simpa using none_before
  simp [findFirstOf, List.findIdx?_append, List.findIdx?_cons, skipped, found]

/-- The position after one that was found is within the line or at its end. -/
theorem next_findFirstOf_le (chars line : Text) : next (findFirstOf chars line) ≤ line.length := by
  cases found : findFirstOf chars line with
  | none => exact Nat.zero_le _
  | some i => exact findFirstOf_lt found

theorem next_findFirstNotOf_le (chars line : Text) (start : ℕ) :
    next (findFirstNotOf chars line start) ≤ line.length := by
  cases found : findFirstNotOf chars line start with
  | none => exact Nat.zero_le _
  | some i => exact findFirstNotOf_lt found

/-- What stands after the first of a character, and the whole text without one. -/
def afterFirst (c : Char) (text : Text) : Text :=
  if c ∈ text then (text.dropWhile (· ≠ c)).drop 1 else text

theorem afterFirst_append {c : Char} {before : Text} (absent : c ∉ before) (after : Text) :
    afterFirst c (before ++ c :: after) = after := by
  have others : ∀ d ∈ before, decide (d ≠ c) = true := by
    intro d member
    have other : d ≠ c := fun same => absent (same ▸ member)
    simpa using other
  rw [afterFirst, if_pos (by simp), List.dropWhile_append_of_pos others]
  simp

theorem afterFirst_of_not_mem {c : Char} {text : Text} (absent : c ∉ text) :
    afterFirst c text = text := if_neg absent

/-- The position after one that was found is that of what stands after the character. -/
theorem drop_next_findFirstOf (c : Char) (text : Text) :
    text.drop (next (findFirstOf [c] text)) = afterFirst c text := by
  by_cases there : c ∈ text
  · obtain ⟨before, after, rfl, absent⟩ := List.eq_append_cons_of_mem there
    have none_before : ∀ d ∈ before, d ∉ [c] := by
      intro d member same
      exact absent (List.mem_singleton.mp same ▸ member)
    rw [findFirstOf_append none_before List.mem_cons_self, afterFirst_append absent, next,
      ← List.drop_drop, List.drop_left]
    rfl
  · have nowhere : findFirstOf [c] text = none := by
      rw [findFirstOf_eq_none_iff]
      intro d member same
      exact there (List.mem_singleton.mp same ▸ member)
    rw [nowhere, afterFirst_of_not_mem there]
    rfl

/-! ## Words -/

/-- The words of a text, with blanks between them. -/
def words (text : Text) : List Text := (text.splitOn ' ').filter (· ≠ [])

@[simp] theorem words_nil : words [] = [] := rfl

/-- A word ends at the first blank. -/
theorem words_append {word : Text} (nonempty : word ≠ []) (noBlank : ' ' ∉ word) (rest : Text) :
    words (word ++ ' ' :: rest) = word :: words rest := by
  rw [words, List.splitOn_append_cons_self_of_not_mem noBlank,
    List.filter_cons_of_pos (by simpa using nonempty)]
  rfl

/-- Words with a blank after each are those words. -/
theorem words_flatMap {texts : List Text}
    (each : ∀ word ∈ texts, word ≠ [] ∧ ' ' ∉ word) :
    words (texts.flatMap (· ++ [' '])) = texts := by
  induction texts with
  | nil => rfl
  | cons word texts ih =>
      obtain ⟨nonempty, noBlank⟩ := each word List.mem_cons_self
      have later := ih fun other member => each other (List.mem_cons_of_mem _ member)
      rw [List.flatMap_cons, List.append_assoc, List.singleton_append,
        words_append nonempty noBlank, later]

/-! ## Pointers -/

/-- What stands at `line.c_str() + offset`. There is no pointer beyond the end of the
line. -/
def pointer (line : Text) (offset : ℕ) : Option Text :=
  if offset ≤ line.length then some (line.drop offset) else none

/-- What stands at `line.c_str()` plus the position of a search. There is no pointer to
`npos`. -/
def pointerTo (line : Text) (found : Option ℕ) : Option Text := found.bind (pointer line)

/-- The string made from a pointer ends at the first NUL. -/
def cString (text : Text) : Text := text.takeWhile fun c => decide (c ≠ '\x00')

theorem pointer_of_le {line : Text} {offset : ℕ} (within : offset ≤ line.length) :
    pointer line offset = some (line.drop offset) := if_pos within

theorem pointer_append (before after : Text) :
    pointer (before ++ after) before.length = some after := by
  rw [pointer_of_le (by simp), List.drop_left]

theorem pointer_eq_none_iff {line : Text} {offset : ℕ} :
    pointer line offset = none ↔ line.length < offset := by
  simp [pointer]

theorem pointerTo_findFirstOf_append {chars before after : Text} {c : Char}
    (none_before : ∀ d ∈ before, d ∉ chars) (found : c ∈ chars) :
    pointerTo (before ++ c :: after) (findFirstOf chars (before ++ c :: after)) =
      some (c :: after) := by
  rw [findFirstOf_append none_before found]
  exact pointer_append before (c :: after)

/-- There is a pointer to one of the characters exactly when the line has one. -/
theorem pointerTo_findFirstOf_eq_none_iff {chars line : Text} :
    pointerTo line (findFirstOf chars line) = none ↔ ∀ c ∈ line, c ∉ chars := by
  rw [← findFirstOf_eq_none_iff]
  cases found : findFirstOf chars line with
  | none => simp [pointerTo]
  | some i => simp [pointerTo, pointer_of_le (Nat.le_of_lt (findFirstOf_lt found))]

/-- A text without NUL is its own string. -/
theorem cString_eq_self {text : Text} (clean : '\x00' ∉ text) : cString text = text := by
  rw [cString, List.takeWhile_eq_self_iff]
  intro c member
  have other : c ≠ '\x00' := by
    rintro rfl
    exact clean member
  simpa using other

/-- A text without NUL ends at the NUL behind it. -/
theorem cString_append_nul {text : Text} (clean : '\x00' ∉ text) (rest : Text) :
    cString (text ++ '\x00' :: rest) = text := by
  have before : ∀ c ∈ text, decide (c ≠ '\x00') = true := by
    intro c member
    have other : c ≠ '\x00' := by
      rintro rfl
      exact clean member
    simpa using other
  rw [cString, List.takeWhile_append_of_pos before]
  simp

/-! ## Decimal numbers -/

/-- A number in decimal. -/
def decimal (n : ℕ) : Text := Nat.toDigits 10 n

theorem isDigit_of_mem_decimal {n : ℕ} {c : Char} (member : c ∈ decimal n) : c.isDigit = true :=
  Nat.isDigit_of_mem_toDigits (by decide) (by decide) member

theorem decimal_ne_nil (n : ℕ) : decimal n ≠ [] := Nat.toDigits_ne_nil

theorem ofDigitChars_decimal (n : ℕ) : Nat.ofDigitChars 10 (decimal n) 0 = n :=
  Nat.ofDigitChars_ten_toDigits

theorem decimal_injective {m n : ℕ} (same : decimal m = decimal n) : m = n := by
  rw [← ofDigitChars_decimal m, same, ofDigitChars_decimal]

/-- What is no digit is in no number. -/
theorem not_mem_decimal {c : Char} (other : c.isDigit = false) (n : ℕ) : c ∉ decimal n := by
  intro member
  rw [isDigit_of_mem_decimal member] at other
  cases other

/-- An integer in decimal, as `std::to_string` writes it. -/
def signedDecimal (i : ℤ) : Text := if i < 0 then '-' :: decimal i.natAbs else decimal i.natAbs

/-- An integer is written like a number exactly when it is that number. -/
theorem signedDecimal_eq_decimal_iff {i : ℤ} {n : ℕ} : signedDecimal i = decimal n ↔ i = n := by
  unfold signedDecimal
  split
  · next negative =>
      constructor
      · intro same
        have minus : '-' ∈ decimal n := same ▸ List.mem_cons_self
        exact absurd minus (not_mem_decimal rfl n)
      · intro same
        omega
  · constructor
    · intro same
      have equal := decimal_injective same
      omega
    · rintro rfl
      rw [Int.natAbs_natCast]

/-! ## `strtoul` -/

/-- `isspace`. -/
def isSpace (c : Char) : Bool := c == ' ' || (decide ('\t' ≤ c) && decide (c ≤ '\r'))

/-- What `strtoul` returns, and how far it moves the end pointer. -/
structure Number where
  value : UInt64
  length : ℕ
  deriving DecidableEq, Repr

/-- Whether a minus sign stands first, and the length of the sign. -/
def sign : Text → Bool × ℕ
  | '-' :: _ => (true, 1)
  | '+' :: _ => (false, 1)
  | _ => (false, 0)

/-- `strtoul(text, &end, 10)`: blanks, a sign and digits are read. A number that is too
large gives the largest one. Without digits nothing is read. -/
def strtoul (text : Text) : Number :=
  let blanks := text.takeWhile isSpace
  let rest := text.drop blanks.length
  let digits := (rest.drop (sign rest).2).takeWhile Char.isDigit
  let magnitude := Nat.ofDigitChars 10 digits 0
  if digits = [] then ⟨0, 0⟩
  else
    { value :=
        if 2 ^ 64 ≤ magnitude then UInt64.ofNat (2 ^ 64 - 1)
        else if (sign rest).1 then -UInt64.ofNat magnitude
        else UInt64.ofNat magnitude
      length := blanks.length + (sign rest).2 + digits.length }

theorem length_sign_le (text : Text) : (sign text).2 ≤ text.length := by
  unfold sign
  split <;> simp

/-- `strtoul` stops at the end of the text. -/
theorem length_strtoul_le (text : Text) : (strtoul text).length ≤ text.length := by
  have blanks : (text.takeWhile isSpace).length ≤ text.length :=
    (List.takeWhile_prefix _).length_le
  have signed := length_sign_le (text.drop (text.takeWhile isSpace).length)
  have digits : (((text.drop (text.takeWhile isSpace).length).drop
      (sign (text.drop (text.takeWhile isSpace).length)).2).takeWhile Char.isDigit).length ≤ _ :=
    (List.takeWhile_prefix _).length_le
  simp only [List.length_drop] at signed digits
  unfold strtoul
  simp only
  split
  · exact Nat.zero_le _
  · simp only
    omega

theorem not_isSpace_of_isDigit {c : Char} (digit : c.isDigit = true) : isSpace c = false := by
  simp only [Char.isDigit, Bool.and_eq_true, decide_eq_true_eq] at digit
  have low : (48 : ℕ) ≤ c.toNat := digit.1
  have beyond : ¬ c ≤ '\r' := by
    intro small
    have small' : c.toNat ≤ 13 := small
    omega
  have other : c ≠ ' ' := by
    rintro rfl
    exact absurd low (by decide)
  simp [isSpace, beyond, other]

theorem sign_of_isDigit {c : Char} (digit : c.isDigit = true) (rest : Text) :
    sign (c :: rest) = (false, 0) := by
  unfold sign
  split
  · next same =>
      obtain ⟨rfl, -⟩ := List.cons.inj same
      exact absurd digit (by decide)
  · next same =>
      obtain ⟨rfl, -⟩ := List.cons.inj same
      exact absurd digit (by decide)
  · rfl

/-- A text in which no digit is found has none. -/
theorem isDigit_eq_false_of_mem {text : Text} (none_found : text.any Char.isDigit = false) :
    ∀ c ∈ text, c.isDigit = false := by
  intro c member
  exact Bool.eq_false_iff.mpr (List.any_eq_false.mp none_found c member)

/-- A text that does not begin with a digit. -/
def NoDigitFirst (text : Text) : Prop := ∀ c rest, text = c :: rest → c.isDigit = false

theorem NoDigitFirst.nil : NoDigitFirst [] := by
  intro c rest same
  cases same

theorem NoDigitFirst.cons {c : Char} (other : c.isDigit = false) (rest : Text) :
    NoDigitFirst (c :: rest) := by
  intro d rest' same
  obtain ⟨rfl, -⟩ := List.cons.inj same
  exact other

theorem NoDigitFirst.takeWhile {text : Text} (first : NoDigitFirst text) :
    text.takeWhile Char.isDigit = [] := by
  cases text with
  | nil => rfl
  | cons c rest => simp [first c rest rfl]

/-- A number in decimal, perhaps with zeros in front. -/
structure Numeral where
  digits : Text
  nonempty : digits ≠ []
  isDigit : ∀ c ∈ digits, c.isDigit = true

namespace Numeral

/-- The number that is written. -/
def value (n : Numeral) : ℕ := Nat.ofDigitChars 10 n.digits 0

/-- A number as it is usually written. -/
def ofNat (n : ℕ) : Numeral where
  digits := decimal n
  nonempty := decimal_ne_nil n
  isDigit _ := isDigit_of_mem_decimal

@[simp] theorem value_ofNat (n : ℕ) : (ofNat n).value = n := ofDigitChars_decimal n

theorem not_mem_digits (n : Numeral) {c : Char} (other : c.isDigit = false) : c ∉ n.digits := by
  intro member
  rw [n.isDigit c member] at other
  cases other

/-- A numeral begins with a digit. -/
theorem exists_cons (n : Numeral) :
    ∃ c digits, n.digits = c :: digits ∧ c.isDigit = true := by
  obtain ⟨c, digits, shape⟩ := List.exists_cons_of_ne_nil n.nonempty
  exact ⟨c, digits, shape, n.isDigit c (shape ▸ List.mem_cons_self)⟩

/-- The digits of a numeral are all that is read of it. -/
theorem takeWhile_append (n : Numeral) {rest : Text} (first : NoDigitFirst rest) :
    (n.digits ++ rest).takeWhile Char.isDigit = n.digits := by
  rw [List.takeWhile_append_of_pos n.isDigit, first.takeWhile, List.append_nil]

theorem sign_append (n : Numeral) (rest : Text) : sign (n.digits ++ rest) = (false, 0) := by
  obtain ⟨c, digits, shape, digit⟩ := n.exists_cons
  rw [shape]
  exact sign_of_isDigit digit _

/-- Blanks before a numeral end where it begins. -/
theorem takeWhile_isSpace_append (n : Numeral) {blanks : Text} (rest : Text)
    (blank : ∀ c ∈ blanks, isSpace c = true) :
    (blanks ++ (n.digits ++ rest)).takeWhile isSpace = blanks := by
  obtain ⟨c, digits, shape, digit⟩ := n.exists_cons
  rw [List.takeWhile_append_of_pos blank, shape]
  simp [not_isSpace_of_isDigit digit]

/-- **`strtoul` reads a numeral**, after any blanks and before anything that is no digit. -/
theorem strtoul_append (n : Numeral) (small : n.value < 2 ^ 64) {blanks rest : Text}
    (blank : ∀ c ∈ blanks, isSpace c = true) (first : NoDigitFirst rest) :
    strtoul (blanks ++ (n.digits ++ rest)) =
      ⟨UInt64.ofNat n.value, blanks.length + n.digits.length⟩ := by
  have within : ¬ 2 ^ 64 ≤ Nat.ofDigitChars 10 n.digits 0 := Nat.not_le.mpr small
  simp only [strtoul, n.takeWhile_isSpace_append rest blank, List.drop_left, n.sign_append,
    List.drop_zero, n.takeWhile_append first, if_neg n.nonempty, if_neg within]
  simp [value]

/-- A numeral is read where a text begins with it. -/
theorem strtoul_digits (n : Numeral) (small : n.value < 2 ^ 64) {rest : Text}
    (first : NoDigitFirst rest) :
    strtoul (n.digits ++ rest) = ⟨UInt64.ofNat n.value, n.digits.length⟩ := by
  have unpadded : ∀ c ∈ ([] : Text), isSpace c = true := by simp
  have read := n.strtoul_append small unpadded first
  rwa [List.nil_append, List.length_nil, Nat.zero_add] at read

end Numeral

/-- **`strtoul` reads a decimal number back**, after any blanks and before anything that is no
digit. -/
theorem strtoul_decimal {n : ℕ} (small : n < 2 ^ 64) {blanks rest : Text}
    (blank : ∀ c ∈ blanks, isSpace c = true) (first : NoDigitFirst rest) :
    strtoul (blanks ++ (decimal n ++ rest)) =
      ⟨UInt64.ofNat n, blanks.length + (decimal n).length⟩ := by
  have below : (Numeral.ofNat n).value < 2 ^ 64 := by simpa using small
  have read := (Numeral.ofNat n).strtoul_append below blank first
  rwa [Numeral.value_ofNat] at read

/-- A decimal number is read where a text begins with it. -/
theorem strtoul_decimal_append {n : ℕ} (small : n < 2 ^ 64) {rest : Text}
    (first : NoDigitFirst rest) :
    strtoul (decimal n ++ rest) = ⟨UInt64.ofNat n, (decimal n).length⟩ := by
  have below : (Numeral.ofNat n).value < 2 ^ 64 := by simpa using small
  have read := (Numeral.ofNat n).strtoul_digits below first
  rwa [Numeral.value_ofNat] at read

/-- A decimal number is read when nothing follows it. -/
theorem strtoul_decimal_self {n : ℕ} (small : n < 2 ^ 64) :
    strtoul (decimal n) = ⟨UInt64.ofNat n, (decimal n).length⟩ := by
  have read := strtoul_decimal_append small NoDigitFirst.nil
  rwa [List.append_nil] at read

/-- The character for a sign. -/
def signChar (negative : Bool) : Char := if negative then '-' else '+'

/-- **`strtoul` reads a signed number** modulo `2 ^ 64`. -/
theorem strtoul_signed {n : ℕ} (small : n < 2 ^ 64) (negative : Bool) {blanks rest : Text}
    (blank : ∀ c ∈ blanks, isSpace c = true) (first : NoDigitFirst rest) :
    (strtoul (blanks ++ signChar negative :: (decimal n ++ rest))).value =
      if negative then -UInt64.ofNat n else UInt64.ofNat n := by
  have noBlank : isSpace (signChar negative) = false := by
    cases negative <;> decide
  have blanksOf : (blanks ++ signChar negative :: (decimal n ++ rest)).takeWhile isSpace =
      blanks := by
    rw [List.takeWhile_append_of_pos blank]
    simp [noBlank]
  have signOf : sign (signChar negative :: (decimal n ++ rest)) = (negative, 1) := by
    cases negative <;> rfl
  have digitsOf : (decimal n ++ rest).takeWhile Char.isDigit = decimal n :=
    (Numeral.ofNat n).takeWhile_append first
  have within : ¬ 2 ^ 64 ≤ n := Nat.not_le.mpr small
  simp only [strtoul, blanksOf, List.drop_left, signOf, List.drop_one, List.tail_cons, digitsOf,
    ofDigitChars_decimal, if_neg (decimal_ne_nil n), if_neg within]

end TextScan
