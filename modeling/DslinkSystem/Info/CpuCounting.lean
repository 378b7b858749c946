import DslinkSystem.Info.CpuInfo
import Mathlib.Data.Finset.Image

/-!
# Counting processors in any layout

`get_cpu_quantities` counts the lines of `/proc/cpuinfo` that begin with `processor`, and the
distinct numbers in its `physical id` lines. Both counters have 32 bits.

Whatever the layout of the file, it returns these two numbers modulo `2 ^ 32`. They do not depend
on the order of the `physical id` lines, on how often each occurs, or on where they stand
between the others (`cpu_counting`).
-/

set_option autoImplicit false

namespace DslinkSystem

open TextScan

namespace Linux

/-! ## The first number of a line -/

/-- The first digits of a line. -/
def firstDigits (line : Text) : Text := (line.dropWhile (!·.isDigit)).takeWhile Char.isDigit

/-- The number that they write. -/
def firstNumber (line : Text) : ℕ := Nat.ofDigitChars 10 (firstDigits line) 0

theorem noDigitFirst_dropWhile (text : Text) : NoDigitFirst (text.dropWhile Char.isDigit) := by
  intro c rest same
  have first := List.head?_dropWhile_not Char.isDigit text
  rw [same] at first
  simpa using first

/-- A line with a digit begins, after what are no digits, with its first number. -/
theorem exists_firstDigits {line : Text} (digit : line.any Char.isDigit = true) :
    ∃ c rest, line.dropWhile (!·.isDigit) = c :: rest ∧ c.isDigit = true := by
  cases found : line.dropWhile (!·.isDigit) with
  | nil =>
      obtain ⟨c, member, isDigit⟩ := List.any_eq_true.mp digit
      have other := List.dropWhile_eq_nil_iff.mp found c member
      simp [isDigit] at other
  | cons c rest =>
      refine ⟨c, rest, rfl, ?_⟩
      have first := List.head?_dropWhile_not (!·.isDigit) line
      rw [found] at first
      simpa using first

/-- The search for a digit finds the first number. -/
theorem pointerTo_digits {line : Text} (digit : line.any Char.isDigit = true) :
    pointerTo line (findFirstOf digits line) = some (line.dropWhile (!·.isDigit)) := by
  obtain ⟨c, rest, found, isDigit⟩ := exists_firstDigits digit
  have split : line = line.takeWhile (!·.isDigit) ++ c :: rest := by
    rw [← found, List.takeWhile_append_dropWhile]
  have none_before : ∀ d ∈ line.takeWhile (!·.isDigit), d ∉ digits := by
    intro d member inDigits
    have other := List.mem_takeWhile_imp member
    rw [mem_digits_iff.mp inDigits] at other
    cases other
  have pointed : pointerTo (line.takeWhile (!·.isDigit) ++ c :: rest)
      (findFirstOf digits (line.takeWhile (!·.isDigit) ++ c :: rest)) = some (c :: rest) :=
    pointerTo_findFirstOf_append none_before (mem_digits_iff.mpr isDigit)
  rw [← split] at pointed
  rw [pointed, found]

/-- What is taken from a `physical id` line is its first number. -/
theorem packageIdOf_eq {line : Text} (begins : startsWith physicalId line = true)
    (digit : line.any Char.isDigit = true) (small : firstNumber line < 2 ^ 32) :
    packageIdOf line = some (UInt32.ofNat (firstNumber line)) := by
  obtain ⟨c, rest, found, isDigit⟩ := exists_firstDigits digit
  have nonempty : firstDigits line ≠ [] := by simp [firstDigits, found, isDigit]
  have isNumber : ∀ c ∈ firstDigits line, c.isDigit = true := fun _ => List.mem_takeWhile_imp
  let numeral : Numeral := ⟨firstDigits line, nonempty, isNumber⟩
  have below : numeral.value < 2 ^ 64 := Nat.lt_trans small (by decide)
  have read := numeral.strtoul_digits below (noDigitFirst_dropWhile (line.dropWhile (!·.isDigit)))
  have whole : numeral.digits ++ (line.dropWhile (!·.isDigit)).dropWhile Char.isDigit =
      line.dropWhile (!·.isDigit) := List.takeWhile_append_dropWhile
  rw [whole] at read
  rw [packageIdOf, if_pos begins, pointerTo_digits digit, Option.map_some, read,
    Option.some.injEq, ← UInt32.toNat_inj]
  have value : numeral.value = firstNumber line := rfl
  simp [value]

/-! ## The counts -/

/-- The file can be counted: a number below `2 ^ 32` stands first in each `physical id` line, and a
digit is in each `cpu cores` line. -/
structure Counted (lines : List Text) : Prop where
  ids : ∀ line ∈ lines, startsWith physicalId line = true →
    line.any Char.isDigit = true ∧ firstNumber line < 2 ^ 32
  cores : ∀ line ∈ lines, startsWith cpuCores line = true → line.any Char.isDigit = true

/-- The numbers in the `physical id` lines. -/
def physicalIds (lines : List Text) : List ℕ :=
  (lines.filter (startsWith physicalId)).map firstNumber

theorem Counted.readable {lines : List Text} (counted : Counted lines) :
    ∀ line ∈ lines, readable line = true := by
  intro line member
  cases isId : startsWith physicalId line with
  | true => simp [Linux.readable, (counted.ids line member isId).1]
  | false =>
      cases isCores : startsWith cpuCores line with
      | true => simp [Linux.readable, counted.cores line member isCores]
      | false => simp [Linux.readable, isId, isCores]

/-- The loop takes the number of each `physical id` line. -/
theorem Counted.filterMap_packageIdOf {lines : List Text} (counted : Counted lines) :
    lines.filterMap packageIdOf = (physicalIds lines).map UInt32.ofNat := by
  induction lines with
  | nil => rfl
  | cons line lines ih =>
      have later := ih ⟨fun other member => counted.ids other (List.mem_cons_of_mem _ member),
        fun other member => counted.cores other (List.mem_cons_of_mem _ member)⟩
      cases isId : startsWith physicalId line with
      | true =>
          obtain ⟨digit, small⟩ := counted.ids line List.mem_cons_self isId
          have taken := packageIdOf_eq isId digit small
          rw [List.filterMap_cons_some taken, later]
          simp [physicalIds, isId]
      | false =>
          have skipped : packageIdOf line = none := by simp [packageIdOf, isId]
          rw [List.filterMap_cons_none skipped, later]
          simp [physicalIds, isId]

/-- Below `2 ^ 32` distinct numbers stay distinct. -/
theorem Counted.card_packageIds {lines : List Text} (counted : Counted lines) :
    (lines.filterMap packageIdOf).toFinset.card = (physicalIds lines).toFinset.card := by
  have image : ((physicalIds lines).map UInt32.ofNat).toFinset =
      (physicalIds lines).toFinset.image UInt32.ofNat := by
    ext id
    simp
  have small : ∀ n ∈ physicalIds lines, n < 2 ^ 32 := by
    intro n member
    obtain ⟨line, kept, rfl⟩ := List.mem_map.mp member
    obtain ⟨there, isId⟩ := List.mem_filter.mp kept
    exact (counted.ids line there isId).2
  rw [counted.filterMap_packageIdOf, image]
  apply Finset.card_image_of_injOn
  intro m inIds n inIds' same
  have equal := congrArg UInt32.toNat same
  rwa [UInt32.toNat_ofNat_of_lt' (small m (by simpa using inIds)),
    UInt32.toNat_ofNat_of_lt' (small n (by simpa using inIds'))] at equal

/-- Another layout of a file: the same `physical id` lines, in any order and number, anywhere
between the other lines. -/
structure Relaid (lines lines' : List Text) : Prop where
  ids : ∀ line, startsWith physicalId line = true → (line ∈ lines ↔ line ∈ lines')
  others : (lines.filter (!startsWith physicalId ·)).Perm (lines'.filter (!startsWith physicalId ·))

variable {lines lines' : List Text}

/-- Another layout can be counted as well. -/
theorem Relaid.counted (relaid : Relaid lines lines') (counted : Counted lines) :
    Counted lines' where
  ids line member begins := counted.ids line ((relaid.ids line begins).mpr member) begins
  cores line member begins := by
    have other : startsWith physicalId line = false :=
      startsWith_eq_false begins (by decide)
    have kept : line ∈ lines'.filter (!startsWith physicalId ·) :=
      List.mem_filter.mpr ⟨member, by simp [other]⟩
    exact counted.cores line (List.mem_filter.mp (relaid.others.mem_iff.mpr kept)).1 begins

/-- No `processor` line is one for a package. -/
theorem countP_processor (lines : List Text) :
    lines.countP (startsWith processor) =
      (lines.filter (!startsWith physicalId ·)).countP (startsWith processor) := by
  rw [List.countP_filter]
  apply List.countP_congr
  intro line _
  constructor
  · intro begins
    have other : startsWith physicalId line = false :=
      startsWith_eq_false begins (by decide)
    simp [begins, other]
  · intro both
    exact (Bool.and_eq_true _ _ ▸ both).1

theorem Relaid.processors (relaid : Relaid lines lines') :
    lines'.countP (startsWith processor) = lines.countP (startsWith processor) := by
  rw [countP_processor lines, countP_processor lines', relaid.others.countP_eq]

/-- The same numbers stand in the `physical id` lines. -/
theorem Relaid.ids_toFinset (relaid : Relaid lines lines') :
    (physicalIds lines').toFinset = (physicalIds lines).toFinset := by
  ext n
  simp only [physicalIds, List.mem_toFinset, List.mem_map, List.mem_filter]
  constructor
  · rintro ⟨line, ⟨member, begins⟩, rfl⟩
    exact ⟨line, ⟨(relaid.ids line begins).mpr member, begins⟩, rfl⟩
  · rintro ⟨line, ⟨member, begins⟩, rfl⟩
    exact ⟨line, ⟨(relaid.ids line begins).mp member, begins⟩, rfl⟩

/-- The two counts are right, as far as 32 bits tell. -/
structure CountsModulo (lines : List Text) (quantities : Quantities) : Prop where
  logical : quantities.logical.toNat = lines.countP (startsWith processor) % 2 ^ 32
  packages : quantities.packages.toNat = (physicalIds lines).toFinset.card % 2 ^ 32

theorem Counted.countsModulo (counted : Counted lines) :
    ∃ quantities, getCpuQuantities (some lines) = some quantities ∧
      CountsModulo lines quantities := by
  refine ⟨_, getCpuQuantities_eq counted.readable, ?_, ?_⟩
  · exact UInt32.toNat_ofNat'
  · rw [counted.card_packageIds]
    exact UInt32.toNat_ofNat'

/-- **The counts do not depend on the layout.** They are the number of `processor` lines and that
of distinct numbers in `physical id` lines, modulo `2 ^ 32`, and the same in another layout. -/
theorem cpu_counting (counted : Counted lines) :
    ∃ quantities, getCpuQuantities (some lines) = some quantities ∧
      CountsModulo lines quantities ∧
        ∀ lines', Relaid lines lines' →
          ∃ quantities', getCpuQuantities (some lines') = some quantities' ∧
            quantities'.logical = quantities.logical ∧
              quantities'.packages = quantities.packages := by
  obtain ⟨quantities, read, counts⟩ := counted.countsModulo
  refine ⟨quantities, read, counts, fun lines' relaid => ?_⟩
  obtain ⟨quantities', read', counts'⟩ := (relaid.counted counted).countsModulo
  refine ⟨quantities', read', ?_, ?_⟩
  · rw [← UInt32.toNat_inj, counts'.logical, counts.logical, relaid.processors]
  · rw [← UInt32.toNat_inj, counts'.packages, counts.packages, relaid.ids_toFinset]

/-- A host with two packages, whose lines are in disorder. -/
def twoPackages : List Text :=
  ["physical id : 1".toList, "processor : 0".toList, "physical id : 0".toList,
    "processor : 1".toList, "physical id : 1".toList, "cpu cores : 1".toList]

theorem counted_twoPackages : Counted twoPackages where
  ids := by decide
  cores := by decide

theorem cpu_counting_two_packages :
    Counted twoPackages ∧
      ∃ quantities, getCpuQuantities (some twoPackages) = some quantities ∧
        CountsModulo twoPackages quantities := by
  obtain ⟨quantities, read, counts, -⟩ := cpu_counting counted_twoPackages
  exact ⟨counted_twoPackages, quantities, read, counts⟩

/-- A file of `2 ^ 32` processors is counted as one of none. -/
theorem cpu_counting_wraps :
    ¬ ∀ lines : List Text, Counted lines →
      ∃ quantities, getCpuQuantities (some lines) = some quantities ∧
        quantities.logical.toNat = lines.countP (startsWith processor) ∧
          quantities.packages.toNat = (physicalIds lines).toFinset.card := by
  intro every
  have notId : startsWith physicalId processor = false := by decide
  have notCores : startsWith cpuCores processor = false := by decide
  have counted : Counted (List.replicate (2 ^ 32) processor) := by
    constructor
    · intro line member begins
      rw [List.eq_of_mem_replicate member, notId] at begins
      cases begins
    · intro line member begins
      rw [List.eq_of_mem_replicate member, notCores] at begins
      cases begins
  obtain ⟨quantities, read, logical, -⟩ := every _ counted
  obtain ⟨quantities', read', counts⟩ := counted.countsModulo
  obtain rfl := Option.some.inj (read.symm.trans read')
  have all : (List.replicate (2 ^ 32) processor).countP (startsWith processor) = 2 ^ 32 := by
    rw [List.countP_replicate, if_pos (by decide)]
  rw [counts.logical, all] at logical
  exact absurd logical (by decide)

end Linux

end DslinkSystem
