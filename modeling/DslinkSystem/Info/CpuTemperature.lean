import DslinkSystem.Info.Pipes

/-!
# The temperature and the open files on Linux

`get_cpu_temp` looks through the output of `sensors` for the line of the package and reads
the number behind its first colon, without the fraction and into an unsigned type. The
command writes a temperature in tenths of a degree, with a sign.

Whatever else the command writes, the getter returns the temperature towards zero exactly
when it is above minus ten tenths; below that it returns a number close to `2 ^ 64`
(`cpuTemp_read_iff`). It closes its pipe on that line only. `get_open_files` reads the first
number of its line back (`getOpenFiles_read`).
-/

set_option autoImplicit false

namespace DslinkSystem

open TextScan

namespace Linux

/-! ## The line of the package -/

def physicalId0 : Text := "Physical id 0".toList

/-- The line of the package: the rest of its label, blanks, a temperature in tenths of a
degree, and what follows. -/
structure SensorLine where
  label : Text
  blanks : Text
  tenths : ℤ
  rest : Text
  noColon : ':' ∉ label
  clean : '\x00' ∉ label ∧ '\x00' ∉ rest
  blank : ∀ c ∈ blanks, isSpace c = true

namespace SensorLine

variable (line : SensorLine)

/-- The temperature as the command writes it. -/
def reading : Text :=
  signChar (decide (line.tenths < 0)) :: (decimal (line.tenths.natAbs / 10) ++
    '.' :: (decimal (line.tenths.natAbs % 10) ++ line.rest))

/-- The line as the command writes it. -/
def text : Text := physicalId0 ++ line.label ++ ':' :: (line.blanks ++ line.reading)

/-- The number that is read. -/
def value : UInt64 :=
  if line.tenths < 0 then -UInt64.ofNat (line.tenths.natAbs / 10)
  else UInt64.ofNat (line.tenths.natAbs / 10)

theorem nul_not_mem_text : '\x00' ∉ line.text := by
  have noDigit : ∀ n, '\x00' ∉ decimal n := not_mem_decimal (by decide)
  have noBlank : '\x00' ∉ line.blanks := by
    intro member
    have space := line.blank _ member
    revert space
    decide
  have noSign : '\x00' ≠ signChar (decide (line.tenths < 0)) := by
    cases decide (line.tenths < 0) <;> decide
  have noKey : '\x00' ∉ physicalId0 := by decide
  simp only [text, reading, List.mem_append, List.mem_cons, not_or]
  exact ⟨⟨noKey, line.clean.1⟩, by decide, noBlank, noSign, noDigit _, by decide, noDigit _,
    line.clean.2⟩

theorem afterFirst_text : afterFirst ':' line.text = line.blanks ++ line.reading := by
  have noColon : ':' ∉ physicalId0 ++ line.label := by
    rw [List.mem_append]
    exact fun member => member.elim (by decide) line.noColon
  exact afterFirst_append noColon _

/-- **The number is read** modulo `2 ^ 64`, without the fraction. -/
theorem strtoul_text (small : line.tenths.natAbs / 10 < 2 ^ 64) :
    (strtoul (line.text.drop (next (findFirstOf [':'] line.text)))).value = line.value := by
  rw [drop_next_findFirstOf, afterFirst_text, reading,
    strtoul_signed small _ line.blank (NoDigitFirst.cons (by decide) _), value]
  simp only [decide_eq_true_eq]

end SensorLine

/-! ## The getter -/

variable {line : SensorLine} {before after : List Text}

/-- The first line of the package is found, whatever stands before it. -/
theorem findTemp_append (others : ∀ other ∈ before, isPackageLine other = false)
    {found : Text} (package : isPackageLine found = true) (pipes : ℕ) :
    findTemp (before ++ found :: after) pipes = findTemp [found] pipes := by
  induction before with
  | nil =>
      rw [List.nil_append, findTemp, findTemp]
      simp only [package, if_true]
  | cons other before ih =>
      have here := others other List.mem_cons_self
      rw [List.cons_append, findTemp]
      simp only [here, Bool.false_eq_true, if_false]
      exact ih fun next member => others next (List.mem_cons_of_mem _ member)

/-- **What `get_cpu_temp` returns** for an output with a line of the package. -/
theorem getCpuTemp_eq (small : line.tenths.natAbs / 10 < 2 ^ 64)
    (others : ∀ other ∈ before, isPackageLine other = false) (pipes : ℕ) :
    getCpuTemp (some (before ++ line.text :: after)) pipes =
      (decimal line.value.toNat ++ degrees, pipes) := by
  have clean : cString line.text = line.text := cString_eq_self line.nul_not_mem_text
  have package : isPackageLine line.text = true := by
    rw [isPackageLine, clean, SensorLine.text, List.append_assoc]
    exact startsWith_append physicalId0 _
  have opened : getCpuTemp (some (before ++ line.text :: after)) pipes =
      findTemp (before ++ line.text :: after) (pipes + 1) := rfl
  rw [opened, findTemp_append others package, findTemp]
  simp only [package, if_true, clean, line.strtoul_text small]
  rfl

/-- Without a line of the package the temperature is `"0.0°C"`, and the pipe stays open. -/
theorem getCpuTemp_of_absent {lines : List Text}
    (others : ∀ other ∈ lines, isPackageLine other = false) (pipes : ℕ) :
    getCpuTemp (some lines) pipes = ("0.0".toList ++ degrees, pipes + 1) := by
  have opened : getCpuTemp (some lines) pipes = findTemp lines (pipes + 1) := rfl
  rw [opened]
  induction lines with
  | nil => rfl
  | cons other lines ih =>
      have here := others other List.mem_cons_self
      rw [findTemp]
      simp only [here, Bool.false_eq_true, if_false]
      exact ih (fun next member => others next (List.mem_cons_of_mem _ member)) rfl

/-! ## When the temperature is right -/

/-- The number that is read is the temperature towards zero unless it is minus one degree or
less. -/
theorem value_eq_iff (small : line.tenths.natAbs / 10 < 2 ^ 64) :
    (line.value.toNat : ℤ) = line.tenths.tdiv 10 ↔ -10 < line.tenths := by
  by_cases negative : line.tenths < 0
  · have towards : line.tenths.tdiv 10 = -((line.tenths.natAbs / 10 : ℕ) : ℤ) := by
      have above : 0 ≤ -line.tenths := by omega
      have opposite := Int.neg_tdiv (-line.tenths) 10
      rw [Int.neg_neg, Int.tdiv_eq_ediv_of_nonneg above] at opposite
      omega
    have size : UInt64.size = 2 ^ 64 := rfl
    rw [SensorLine.value, if_pos negative, towards, UInt64.toNat_neg,
      UInt64.toNat_ofNat_of_lt' small, size]
    omega
  · have towards : line.tenths.tdiv 10 = ((line.tenths.natAbs / 10 : ℕ) : ℤ) := by
      rw [Int.tdiv_eq_ediv_of_nonneg (by omega)]
      omega
    rw [SensorLine.value, if_neg negative, towards, UInt64.toNat_ofNat_of_lt' small]
    exact iff_of_true rfl (by omega)

/-- **The temperature is read towards zero while it is above minus one degree.** Whatever
stands before and after the line of the package in the output: the getter returns its whole
degrees towards zero exactly when the temperature is above minus one degree. -/
theorem cpuTemp_read_iff (line : SensorLine) (before after : List Text)
    (small : line.tenths.natAbs / 10 < 2 ^ 64)
    (others : ∀ other ∈ before, isPackageLine other = false) (pipes : ℕ) :
    getCpuTemp (some (before ++ line.text :: after)) pipes =
        (signedDecimal (line.tenths.tdiv 10) ++ degrees, pipes) ↔ -10 < line.tenths := by
  rw [getCpuTemp_eq small others, ← value_eq_iff small, Prod.mk.injEq,
    List.append_left_inj, and_iff_left rfl, eq_comm, signedDecimal_eq_decimal_iff, eq_comm]

/-- A package at minus half a degree. -/
def minusHalf : SensorLine where
  label := []
  blanks := [' ', ' ']
  tenths := -5
  rest := ['\n']
  noColon := by decide
  clean := by decide
  blank := by simp [isSpace]

theorem cpuTemp_read_minusHalf :
    getCpuTemp (some (["Adapter: ISA adapter\n".toList] ++ minusHalf.text :: [])) 0 =
      (signedDecimal (minusHalf.tenths.tdiv 10) ++ degrees, 0) :=
  (cpuTemp_read_iff minusHalf _ [] (by decide) (by decide) 0).mpr (by decide)

/-! ## The open files -/

/-- `get_open_files` reads the first number of its line back. -/
theorem getOpenFiles_read {n : ℕ} (small : n < 2 ^ 64) {rest : Text} (first : NoDigitFirst rest)
    (clean : '\x00' ∉ rest) (later : List Text) (pipes : ℕ) :
    getOpenFiles (some ((decimal n ++ rest) :: later)) pipes = (decimal n, pipes) := by
  have whole : cString (decimal n ++ rest) = decimal n ++ rest := by
    apply cString_eq_self
    rw [List.mem_append]
    exact fun member => member.elim (not_mem_decimal (by decide) n) clean
  have read := strtoul_decimal_append small first
  have returned : getOpenFiles (some ((decimal n ++ rest) :: later)) pipes =
      (decimal (strtoul (cString (decimal n ++ rest))).value.toNat, pipes) := rfl
  rw [returned, whole, read, UInt64.toNat_ofNat_of_lt' small]

end Linux

end DslinkSystem
