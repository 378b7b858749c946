import DslinkSystem.Info.Pipes
import Mathlib.Algebra.Ring.Int.Defs

/-!
# Memory on macOS

`get_free_memory` takes two counts of pages from the lines of `vm_stat` and multiplies their sum
by 4096. `get_total_memory` reads the size of the memory, and `get_used_memory` subtracts from it
what it reads back from the text of the free memory. All three are in megabytes.

The code takes a line for a counter when it begins with the counter's name, so a longer name
will do. The free memory is that of the report exactly when the counts that are taken come to the
megabytes of the report without leaving a `long`; then the used and the free memory add up to the
total (`mac_memory_adds_up_iff`). In a report without longer names this asks for both counts, a
small sum, and the same megabytes for pages of 4096 bytes as for those of the report
(`MemoryReadings.sound_iff_of_plainNames`).
-/

set_option autoImplicit false

namespace DslinkSystem

open TextScan

namespace MacOS

/-! ## The getters -/

/-- The unit of the texts. -/
def mByte : Text := " MByte".toList

/-- A result of type `long`. There is none when the arithmetic overflows. -/
def long (i : ℤ) : Option ℤ := if -2 ^ 63 ≤ i ∧ i < 2 ^ 63 then some i else none

/-- `(free_pages + speculative_pages) * 4096 / 1024 / 1024`. There is no result when a variable is
read that was not assigned. -/
def freeMegabytes (cells : PageCells) : Option ℤ := do
  let freePages ← cells.freePages
  let speculativePages ← cells.speculativePages
  let pages ← long (freePages.toInt + speculativePages.toInt)
  let bytes ← long (pages * 4096)
  return (bytes.tdiv 1024).tdiv 1024

/-- `info::system::get_free_memory()`, with an overflow as one more way to have no result. -/
def getFreeMemoryText (vmStat : PopenOutcome) : WithPipes (Option Text) := do
  match ← popen vmStat with
  | none => return some "NA".toList
  | some lines =>
      return (freeMegabytes (lines.foldl scanPageLine {})).map fun megabytes =>
        signedDecimal megabytes ++ mByte

/-- `info::system::get_total_memory()`, for what `popen` gives for `sysctl -n hw.memsize`. -/
def getTotalMemory (memsize : PopenOutcome) : WithPipes Text := do
  let text ← getMacosInfo memsize
  return decimal ((strtoul (cString text)).value / 1024 / 1024).toNat ++ mByte

/-- `info::system::get_used_memory()`. Its subtraction is unsigned. -/
def getUsedMemory (memsize vmStat : PopenOutcome) : WithPipes (Option Text) := do
  let text ← getMacosInfo memsize
  let freeMemory ← getFreeMemoryText vmStat
  return freeMemory.map fun free =>
    decimal ((strtoul (cString text)).value / 1024 / 1024 - (strtoul (cString free)).value).toNat ++
      mByte

/-! ## Arithmetic -/

theorem long_eq_some_iff {i j : ℤ} : long i = some j ↔ i = j ∧ -2 ^ 63 ≤ i ∧ i < 2 ^ 63 := by
  unfold long
  split
  · next within =>
      rw [Option.some.injEq]
      exact ⟨fun same => ⟨same, within⟩, fun both => both.1⟩
  · next outside => exact iff_of_false (by simp) fun both => outside both.2

/-- Numbers of `long` are as they are modulo `2 ^ 64`. -/
theorem bmod_of_long {i j : ℤ} (result : long i = some j) : i.bmod (2 ^ 64) = j := by
  obtain ⟨rfl, low, high⟩ := long_eq_some_iff.mp result
  exact Int.bmod_eq_of_le (by omega) (by omega)

/-- A number of 64 bits as a `long`. -/
theorem toInt_ofNat {n : ℕ} (small : n < 2 ^ 64) :
    (Int64.ofNat n).toInt = if n < 2 ^ 63 then (n : ℤ) else (n : ℤ) - 2 ^ 64 := by
  rw [Int64.toInt_ofNat', Int64.size]
  simp only [Int.bmod]
  split <;> split <;> omega

/-- Dividing twice, towards zero, is dividing once. -/
theorem tdiv_tdiv (i : ℤ) : (i.tdiv 1024).tdiv 1024 = i.tdiv (2 ^ 20) := by
  have of_nonneg : ∀ j : ℤ, 0 ≤ j → (j.tdiv 1024).tdiv 1024 = j.tdiv (2 ^ 20) := by
    intro j nonneg
    rw [Int.tdiv_eq_ediv_of_nonneg nonneg, Int.tdiv_eq_ediv_of_nonneg (by omega),
      Int.tdiv_eq_ediv_of_nonneg nonneg]
    omega
  rcases Int.le_total 0 i with nonneg | nonpos
  · exact of_nonneg i nonneg
  · have opposite := of_nonneg (-i) (by omega)
    rw [Int.neg_tdiv, Int.neg_tdiv, Int.neg_tdiv] at opposite
    exact Int.neg_inj.mp opposite

/-- The bytes of so many pages of 4096 fit in a `long`, and come to the given megabytes. -/
def Yields (pages : ℤ) (n : ℕ) : Prop :=
  (-2 ^ 63 ≤ pages * 4096 ∧ pages * 4096 < 2 ^ 63) ∧ (pages * 4096).tdiv (2 ^ 20) = n

/-- The loop's counts are turned into megabytes exactly when the arithmetic stays in a
`long`. -/
theorem freeMegabytes_eq_some_iff {free speculative : Int64} {n : ℕ} :
    freeMegabytes ⟨some free, some speculative⟩ = some (n : ℤ) ↔
      Yields (free.toInt + speculative.toInt) n := by
  simp only [freeMegabytes, Yields, Option.bind_eq_bind, Option.bind_some, Option.bind_eq_some_iff,
    Option.pure_def, Option.some.injEq, long_eq_some_iff, tdiv_tdiv]
  constructor
  · rintro ⟨pages, ⟨rfl, -, -⟩, bytes, ⟨rfl, low, high⟩, equal⟩
    exact ⟨⟨low, high⟩, equal⟩
  · rintro ⟨⟨low, high⟩, equal⟩
    exact ⟨_, ⟨rfl, by omega, by omega⟩, _, ⟨rfl, low, high⟩, equal⟩

/-- The megabytes are those of pages of a given size exactly when the product is small and both
sizes give the same. -/
theorem yields_iff {f s size : ℕ} (positive : 0 < size) (within : (f + s) * size < 2 ^ 64) :
    Yields ((Int64.ofNat f).toInt + (Int64.ofNat s).toInt) ((f + s) * size / 2 ^ 20) ↔
      (f + s) * 4096 < 2 ^ 63 ∧ (f + s) * 4096 / 2 ^ 20 = (f + s) * size / 2 ^ 20 := by
  have pages : f + s ≤ (f + s) * size := Nat.le_mul_of_pos_right _ positive
  have free := toInt_ofNat (by omega : f < 2 ^ 64)
  have speculative := toInt_ofNat (by omega : s < 2 ^ 64)
  generalize product : (f + s) * size = bytes at within pages ⊢
  rw [Yields, free, speculative]
  constructor
  · rintro ⟨⟨wholeLow, wholeHigh⟩, equal⟩
    by_cases negative : ((if f < 2 ^ 63 then (f : ℤ) else (f : ℤ) - 2 ^ 64) +
        (if s < 2 ^ 63 then (s : ℤ) else (s : ℤ) - 2 ^ 64)) * 4096 < 0
    · -- One of the counts is taken for a negative number, and so is the result.
      have below := Int.tdiv_le_tdiv (by decide : (0 : ℤ) < 2 ^ 20) (Int.le_of_lt negative)
      rw [equal, Int.zero_tdiv] at below
      split at negative <;> split at negative <;> omega
    · rw [Int.tdiv_eq_ediv_of_nonneg (by omega)] at equal
      split at equal <;> split at equal <;> omega
  · rintro ⟨small, same⟩
    rw [if_pos (by omega), if_pos (by omega), Int.tdiv_eq_ediv_of_nonneg (by omega)]
    refine ⟨⟨by omega, by omega⟩, by omega⟩

/-- Where there is a text of the free memory, it is that of the arithmetic that wraps. -/
theorem getFreeMemory_of_text {vmStat : PopenOutcome} {pipes : ℕ} {text : Text}
    (result : (getFreeMemoryText vmStat pipes).1 = some text) :
    (getFreeMemory vmStat pipes).1 = some text := by
  cases vmStat with
  | none => exact result
  | some lines =>
      have checked : (freeMegabytes (lines.foldl scanPageLine {})).map (fun megabytes =>
          signedDecimal megabytes ++ mByte) = some text := result
      obtain ⟨megabytes, computed, rfl⟩ := Option.map_eq_some_iff.mp checked
      simp only [freeMegabytes, Option.bind_eq_bind, Option.bind_eq_some_iff, Option.pure_def,
        Option.some.injEq] at computed
      obtain ⟨free, isFree, speculative, isSpeculative, pages, sum, bytes, product, rfl⟩ := computed
      have added : (free + speculative).toInt = pages := by
        rw [Int64.toInt_add, bmod_of_long sum]
      have multiplied : ((free + speculative) * 4096).toInt = bytes := by
        rw [Int64.toInt_mul, added]
        exact bmod_of_long product
      have divided : ((free + speculative) * 4096 / 1024 / 1024).toInt =
          (bytes.tdiv 1024).tdiv 1024 := by
        rw [Int64.toInt_div_of_ne_right _ _ (by decide), Int64.toInt_div_of_ne_right _ _ (by decide),
          multiplied]
        rfl
      have returned : (getFreeMemory (some lines) pipes).1 = (do
          let freePages ← (lines.foldl scanPageLine {}).freePages
          let speculativePages ← (lines.foldl scanPageLine {}).speculativePages
          let megabytes := (freePages + speculativePages) * 4096 / 1024 / 1024
          return signedDecimal megabytes.toInt ++ " MByte".toList) := rfl
      rw [returned, isFree, isSpeculative, Option.bind_eq_bind, Option.bind_some, Option.bind_some]
      exact congrArg (fun megabytes => some (signedDecimal megabytes ++ mByte)) divided

/-! ## Readings -/

def pagesFree : Text := "Pages free".toList
def pagesSpeculative : Text := "Pages speculative".toList

/-- A name on a line: text without a colon, a NUL or a newline. -/
structure PlainName where
  chars : Text
  noColon : ':' ∉ chars
  noNul : '\x00' ∉ chars
  oneLine : '\n' ∉ chars

/-- A line `Name: N.` of `vm_stat`. -/
structure PageLine where
  name : PlainName
  padding : Text
  blank : ∀ c ∈ padding, c = ' '
  count : Numeral

namespace PageLine

/-- What `getline` reads for the line. -/
def text (line : PageLine) : Text :=
  line.name.chars ++ ':' :: (line.padding ++ (line.count.digits ++ ['.', '\n']))

/-- The line has the given name. -/
def named (key : Text) (line : PageLine) : Bool := decide (line.name.chars = key)

/-- The code takes the line for one of the given name: its name begins with it. -/
def isOf (key : Text) (line : PageLine) : Bool := startsWith key line.name.chars

end PageLine

/-- A report of `vm_stat`: a header with the size of a page, and lines in any order, at most one
for each of the two counters. -/
structure VmStat where
  title : PlainName
  pageSize : Numeral
  lines : List PageLine
  once : ∀ key ∈ [pagesFree, pagesSpeculative], (lines.filter (PageLine.named key)).length ≤ 1

namespace VmStat

variable (report : VmStat)

def header : Text :=
  report.title.chars ++
    ':' :: (" (page size of ".toList ++ (report.pageSize.digits ++ " bytes)\n".toList))

def text : List Text := report.header :: report.lines.map PageLine.text

/-- The count of pages, zero when its line is missing. -/
def pages (key : Text) : ℕ :=
  ((report.lines.find? (PageLine.named key)).map (·.count.value)).getD 0

/-- The pages that are free or speculative. -/
def availablePages : ℕ := report.pages pagesFree + report.pages pagesSpeculative

end VmStat

/-- The readings of a host: the size of its memory and a report of no more than that. -/
structure MemoryReadings where
  memsize : UInt64
  report : VmStat
  within : report.availablePages * report.pageSize.value ≤ memsize.toNat

namespace MemoryReadings

variable (readings : MemoryReadings)

/-- What `sysctl -n hw.memsize` writes. -/
def memsizeText : List Text := [decimal readings.memsize.toNat ++ ['\n']]

/-- The memory that is free, in megabytes. -/
def available : ℕ :=
  readings.report.availablePages * readings.report.pageSize.value / 2 ^ 20

end MemoryReadings

/-! ## What the loop takes from a report -/

/-- What is taken from a line for its counter. -/
def PageLine.read (line : PageLine) : Int64 :=
  (strtoul (line.padding ++ (line.count.digits ++ ['.', '\n']))).value.toInt64

/-- The turn of the loop on a line without NUL, for what stands before and after its colon. -/
theorem scanPageLine_of_plain (cells : PageCells) (name : PlainName) {rest : Text}
    (noNul : '\x00' ∉ rest) :
    scanPageLine cells (name.chars ++ ':' :: rest) =
      if startsWith pagesFree name.chars then
        { cells with freePages := some (strtoul rest).value.toInt64 }
      else if startsWith pagesSpeculative name.chars then
        { cells with speculativePages := some (strtoul rest).value.toInt64 }
      else cells := by
  have clean : '\x00' ∉ name.chars ++ ':' :: rest := by
    simp [name.noNul, noNul]
  have free : startsWith "Pages free".toList (name.chars ++ ':' :: rest) =
      startsWith pagesFree name.chars :=
    startsWith_append_cons (by decide : ':' ∉ pagesFree) name.chars rest
  have speculative : startsWith "Pages speculative".toList (name.chars ++ ':' :: rest) =
      startsWith pagesSpeculative name.chars :=
    startsWith_append_cons (by decide : ':' ∉ pagesSpeculative) name.chars rest
  rw [scanPageLine, cString_eq_self clean, drop_next_findFirstOf, afterFirst_append name.noColon,
    free, speculative]

theorem scanPageLine_text (cells : PageCells) (line : PageLine) :
    scanPageLine cells line.text =
      if line.isOf pagesFree then { cells with freePages := some line.read }
      else if line.isOf pagesSpeculative then { cells with speculativePages := some line.read }
      else cells := by
  have inPadding : '\x00' ∉ line.padding := fun nul => absurd (line.blank _ nul) (by decide)
  have inCount : '\x00' ∉ line.count.digits := line.count.not_mem_digits rfl
  apply scanPageLine_of_plain
  simp [inPadding, inCount]

/-- No number stands after the colon of the header. -/
theorem strtoul_pageSize (digits : Text) :
    (strtoul (" (page size of ".toList ++ (digits ++ " bytes)\n".toList))).value.toInt64 = 0 := by
  have shape : " (page size of ".toList = ' ' :: '(' :: "page size of ".toList := by decide
  have blank : isSpace ' ' = true := by decide
  have noBlank : isSpace '(' = false := by decide
  have unsigned : ∀ rest, sign ('(' :: rest) = (false, 0) := fun _ => rfl
  have noDigit : Char.isDigit '(' = false := by decide
  rw [shape, strtoul]
  simp [blank, noBlank, unsigned, noDigit]

/-- What the header leaves: it is taken for a counter whose name its title begins with. -/
theorem scanPageLine_header (report : VmStat) :
    scanPageLine {} report.header =
      { freePages := if startsWith pagesFree report.title.chars then some 0 else none
        speculativePages :=
          if startsWith pagesSpeculative report.title.chars then some 0 else none } := by
  have inSize : '\x00' ∉ report.pageSize.digits := report.pageSize.not_mem_digits rfl
  have noNul : '\x00' ∉ " (page size of ".toList ++
      (report.pageSize.digits ++ " bytes)\n".toList) := by
    simp [inSize]
  rw [VmStat.header, scanPageLine_of_plain {} report.title noNul, strtoul_pageSize]
  cases isFree : startsWith pagesFree report.title.chars with
  | true =>
      have notSpeculative : startsWith pagesSpeculative report.title.chars = false :=
        startsWith_eq_false isFree (by decide)
      simp [notSpeculative]
  | false => cases startsWith pagesSpeculative report.title.chars <;> rfl

/-- The loop over lines keeps the last line that is taken for each counter. -/
theorem foldl_scanPageLine (lines : List PageLine) (cells : PageCells) :
    (lines.map PageLine.text).foldl scanPageLine cells =
      { freePages :=
          ((lines.filter (PageLine.isOf pagesFree)).getLast?.map PageLine.read).or cells.freePages
        speculativePages :=
          ((lines.filter (PageLine.isOf pagesSpeculative)).getLast?.map PageLine.read).or
            cells.speculativePages } := by
  induction lines generalizing cells with
  | nil => rfl
  | cons line lines ih =>
      rw [List.map_cons, List.foldl_cons, ih, scanPageLine_text]
      cases isFree : line.isOf pagesFree with
      | true =>
          have notSpeculative : line.isOf pagesSpeculative = false :=
            startsWith_eq_false isFree (by decide)
          simp [isFree, notSpeculative, List.getLast?_cons]
      | false =>
          cases isSpeculative : line.isOf pagesSpeculative with
          | true => simp [isFree, isSpeculative, List.getLast?_cons]
          | false => simp [isFree, isSpeculative]

/-- The count that the code takes for a counter: the one on the last line that begins with its
name, where the header counts for zero. -/
def VmStat.taken (report : VmStat) (key : Text) : Option Int64 :=
  ((report.lines.filter (PageLine.isOf key)).getLast?.map PageLine.read).or
    (if startsWith key report.title.chars then some 0 else none)

theorem VmStat.foldl_text (report : VmStat) :
    report.text.foldl scanPageLine {} =
      ⟨report.taken pagesFree, report.taken pagesSpeculative⟩ := by
  rw [VmStat.text, List.foldl_cons, scanPageLine_header, foldl_scanPageLine]
  rfl

/-- A line gives its count when that fits in 64 bits. -/
theorem PageLine.read_of_lt (line : PageLine) (small : line.count.value < 2 ^ 64) :
    line.read = Int64.ofNat line.count.value := by
  have blank : ∀ c ∈ line.padding, isSpace c = true := by
    intro c member
    rw [line.blank c member]
    rfl
  have first : NoDigitFirst ['.', '\n'] := NoDigitFirst.cons (by decide) _
  have read := line.count.strtoul_append small blank first
  rw [PageLine.read, read, UInt64.toInt64_ofNat']

/-! ## When the figures add up -/

namespace MemoryReadings

variable (readings : MemoryReadings)

/-- The texts of the three getters for the same readings, with some pipes open. -/
def freeText (pipes : ℕ) : Option Text :=
  (getFreeMemoryText (some readings.report.text) pipes).1

def totalText (pipes : ℕ) : Text := (getTotalMemory (some readings.memsizeText) pipes).1

def usedText (pipes : ℕ) : Option Text :=
  (getUsedMemory (some readings.memsizeText) (some readings.report.text) pipes).1

/-- The figures add up: the free memory is that of the report, it is no more than the total, so
that no subtraction wraps, and used and free memory make up the total. -/
structure AddsUp (pipes : ℕ) : Prop where
  free : readings.freeText pipes = some (decimal readings.available ++ mByte)
  noWrap : ∀ text, readings.freeText pipes = some text →
    (strtoul (cString text)).value.toNat ≤ readings.memsize.toNat / 1024 / 1024
  total : ∃ used total, readings.usedText pipes = some (decimal used ++ mByte) ∧
    readings.totalText pipes = decimal total ++ mByte ∧ used + readings.available = total

/-- Both counters are taken from a line, and the counts that are taken come to the megabytes of
the report without leaving a `long`. -/
def Sound : Prop :=
  ∃ free speculative, readings.report.taken pagesFree = some free ∧
    readings.report.taken pagesSpeculative = some speculative ∧
    Yields (free.toInt + speculative.toInt) readings.available

/-- The text of the free memory is a number exactly when the loop gives that number. -/
theorem freeText_eq_iff {pipes n : ℕ} :
    readings.freeText pipes = some (decimal n ++ mByte) ↔
      freeMegabytes (readings.report.text.foldl scanPageLine {}) = some (n : ℤ) := by
  have text : readings.freeText pipes =
      (freeMegabytes (readings.report.text.foldl scanPageLine {})).map fun megabytes =>
        signedDecimal megabytes ++ mByte := rfl
  rw [text]
  cases freeMegabytes (readings.report.text.foldl scanPageLine {}) with
  | none => simp
  | some megabytes => simp [signedDecimal_eq_decimal_iff]

/-- The free memory is that of the report exactly when the readings are sound. -/
theorem freeText_iff (pipes : ℕ) :
    readings.freeText pipes = some (decimal readings.available ++ mByte) ↔ readings.Sound := by
  rw [freeText_eq_iff, VmStat.foldl_text, Sound]
  cases isFree : readings.report.taken pagesFree with
  | none => simp [freeMegabytes]
  | some free =>
      cases isSpeculative : readings.report.taken pagesSpeculative with
      | none => simp [freeMegabytes]
      | some speculative => simp [freeMegabytes_eq_some_iff]

/-- The available memory is no more than the total. -/
theorem available_le : readings.available ≤ readings.memsize.toNat / 1024 / 1024 := by
  have within := Nat.div_le_div_right (c := 2 ^ 20) readings.within
  rw [available, Nat.div_div_eq_div_mul]
  exact within

/-- A number is read back from the text of a getter. -/
theorem strtoul_mByte {n : ℕ} (small : n < 2 ^ 64) :
    (strtoul (cString (decimal n ++ mByte))).value = UInt64.ofNat n := by
  have inNumber : '\x00' ∉ decimal n := not_mem_decimal rfl n
  have inUnit : '\x00' ∉ mByte := by decide
  have clean : '\x00' ∉ decimal n ++ mByte := by
    simp only [List.mem_append, inNumber, inUnit, or_self, not_false_iff]
  have first : NoDigitFirst mByte := NoDigitFirst.cons (by decide) _
  rw [cString_eq_self clean, strtoul_decimal_append small first]

/-- The size of the memory is read back. -/
theorem strtoul_memsize (pipes : ℕ) :
    (strtoul (cString (getMacosInfo (some readings.memsizeText) pipes).1)).value =
      readings.memsize := by
  have line : (getMacosInfo (some readings.memsizeText) pipes).1 =
      decimal readings.memsize.toNat := by
    have digits : ∀ c ∈ decimal readings.memsize.toNat, decide (c ≠ '\n') = true := by
      intro c member
      have other : c ≠ '\n' := by
        rintro rfl
        exact not_mem_decimal rfl _ member
      simpa using other
    have returned : (getMacosInfo (some readings.memsizeText) pipes).1 =
        (decimal readings.memsize.toNat ++ ['\n']).filter (· ≠ '\n') := rfl
    rw [returned, List.filter_append, List.filter_eq_self.mpr digits]
    simp
  rw [line, cString_eq_self (not_mem_decimal rfl _),
    strtoul_decimal_self readings.memsize.toNat_lt, UInt64.ofNat_toNat]

theorem totalText_eq (pipes : ℕ) :
    readings.totalText pipes = decimal (readings.memsize.toNat / 1024 / 1024) ++ mByte := by
  have text : readings.totalText pipes =
      decimal ((strtoul (cString (getMacosInfo (some readings.memsizeText) pipes).1)).value /
        1024 / 1024).toNat ++ mByte := rfl
  rw [text, readings.strtoul_memsize]
  rfl

/-- The used memory, when the text of the free memory is a number of megabytes. -/
theorem usedText_eq {pipes n : ℕ} (free : readings.freeText pipes = some (decimal n ++ mByte))
    (bounded : n ≤ readings.memsize.toNat / 1024 / 1024) :
    readings.usedText pipes =
      some (decimal (readings.memsize.toNat / 1024 / 1024 - n) ++ mByte) := by
  have small : n < 2 ^ 64 := by
    have total := readings.memsize.toNat_lt
    omega
  have text : readings.usedText pipes =
      (readings.freeText pipes).map fun free =>
        decimal ((strtoul (cString (getMacosInfo (some readings.memsizeText) pipes).1)).value /
          1024 / 1024 - (strtoul (cString free)).value).toNat ++ mByte := rfl
  have megabytes : (readings.memsize / 1024 / 1024).toNat =
      readings.memsize.toNat / 1024 / 1024 := rfl
  have number : (UInt64.ofNat n).toNat = n := UInt64.toNat_ofNat_of_lt' small
  rw [text, free, Option.map_some, readings.strtoul_memsize, strtoul_mByte small,
    UInt64.toNat_sub_of_le, megabytes, number]
  rw [UInt64.le_iff_toNat_le, megabytes, number]
  exact bounded

end MemoryReadings

/-- **When the memory figures add up**: exactly when both counters are taken from a line, and the
counts that are taken come to the megabytes of the report without leaving a `long`. -/
theorem mac_memory_adds_up_iff (readings : MemoryReadings) (pipes : ℕ) :
    readings.AddsUp pipes ↔ readings.Sound := by
  rw [← readings.freeText_iff pipes]
  constructor
  · exact fun addsUp => addsUp.free
  · intro free
    have bounded := readings.available_le
    refine ⟨free, ?_, ?_⟩
    · intro text there
      obtain rfl := Option.some.inj (free.symm.trans there)
      have small : readings.available < 2 ^ 64 := by
        have total := readings.memsize.toNat_lt
        omega
      rw [MemoryReadings.strtoul_mByte small, UInt64.toNat_ofNat_of_lt' small]
      exact bounded
    · refine ⟨_, _, readings.usedText_eq free bounded, readings.totalText_eq pipes, ?_⟩
      omega

/-- A host with pages of 16384 bytes, two thousand of which are free. -/
def largePages : MemoryReadings where
  memsize := 1073741824
  report :=
    { title := ⟨"Mach Virtual Memory Statistics".toList, by decide, by decide, by decide⟩
      pageSize := .ofNat 16384
      lines :=
        [⟨⟨pagesFree, by decide, by decide, by decide⟩, [' '], by simp, .ofNat 2000⟩,
          ⟨⟨pagesSpeculative, by decide, by decide, by decide⟩, [' '], by simp, .ofNat 0⟩]
      once := by decide }
  within := by decide

/-- The free memory of that host is taken for a quarter of what it is. -/
theorem mac_memory_wrong_page_size :
    ¬ ∀ (readings : MemoryReadings) (pipes : ℕ), readings.AddsUp pipes := by
  intro every
  obtain ⟨free, speculative, isFree, isSpeculative, -, megabytes⟩ :=
    (largePages.freeText_iff 0).mp (every largePages 0).free
  have taken : largePages.report.taken pagesFree = some 2000 ∧
      largePages.report.taken pagesSpeculative = some 0 := by decide
  rw [taken.1, Option.some.injEq] at isFree
  rw [taken.2, Option.some.injEq] at isSpeculative
  subst isFree isSpeculative
  exact absurd megabytes (by decide)

/-! ## Reports without longer names -/

namespace VmStat

variable (report : VmStat)

/-- The header and the lines begin with the name of a counter only where they have it. -/
structure PlainNames : Prop where
  title : ∀ key ∈ [pagesFree, pagesSpeculative], startsWith key report.title.chars = false
  lines : ∀ key ∈ [pagesFree, pagesSpeculative], ∀ line ∈ report.lines,
    line.isOf key = line.named key

variable {report}

/-- The count that is taken is then the one on the line that has the name. -/
theorem taken_of_plainNames {key : Text} (isKey : key ∈ [pagesFree, pagesSpeculative])
    (plain : report.PlainNames) :
    report.taken key = (report.lines.find? (PageLine.named key)).map PageLine.read := by
  have once := report.once key isKey
  rw [taken, plain.title key isKey, List.filter_congr (plain.lines key isKey), ← List.head?_filter]
  cases named : report.lines.filter (PageLine.named key) with
  | nil => rfl
  | cons line rest =>
      rw [named, List.length_cons] at once
      obtain rfl : rest = [] := List.length_eq_zero_iff.mp (by omega)
      rfl

end VmStat

/-- **Without longer names the readings are sound** exactly when the report has both counters, the
bytes of its pages fit in a `long`, and pages of 4096 bytes give the same megabytes as its own. -/
theorem MemoryReadings.sound_iff_of_plainNames {readings : MemoryReadings}
    (plain : readings.report.PlainNames) (positive : 0 < readings.report.pageSize.value) :
    readings.Sound ↔
      ((∃ line ∈ readings.report.lines, line.named pagesFree = true) ∧
        ∃ line ∈ readings.report.lines, line.named pagesSpeculative = true) ∧
      readings.report.availablePages * 4096 < 2 ^ 63 ∧
      readings.report.availablePages * 4096 / 2 ^ 20 = readings.available := by
  -- The pages are no more than the bytes, so that their counts fit in 64 bits.
  have small : readings.report.availablePages < 2 ^ 64 :=
    Nat.lt_of_le_of_lt (Nat.le_trans (Nat.le_mul_of_pos_right _ positive) readings.within)
      readings.memsize.toNat_lt
  rw [Sound, VmStat.taken_of_plainNames (by simp) plain, VmStat.taken_of_plainNames (by simp) plain,
    ← List.find?_isSome, ← List.find?_isSome]
  cases isFree : readings.report.lines.find? (PageLine.named pagesFree) with
  | none => simp
  | some free =>
      cases isSpeculative : readings.report.lines.find? (PageLine.named pagesSpeculative) with
      | none => simp
      | some speculative =>
          have pages : readings.report.availablePages =
              free.count.value + speculative.count.value := by
            simp [VmStat.availablePages, VmStat.pages, isFree, isSpeculative]
          have within : (free.count.value + speculative.count.value) *
              readings.report.pageSize.value < 2 ^ 64 :=
            pages ▸ Nat.lt_of_le_of_lt readings.within readings.memsize.toNat_lt
          have arithmetic := yields_iff positive within
          rw [available, pages, ← arithmetic]
          simp [free.read_of_lt (by omega), speculative.read_of_lt (by omega)]

end MacOS

end DslinkSystem
