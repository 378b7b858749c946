import DslinkSystem.Library.DistinctCount
import DslinkSystem.Library.TextScan

/-!
# Reading `/proc/cpuinfo`

The Linux getters that read `/proc/cpuinfo`: the frequency, the quantities of processors,
and the value of a key. A getter has no result when it constructs a string from a null
pointer or uses a pointer outside a line.

The result of `get_cpu_quantities` is given in closed form (`getCpuQuantities_eq`): the
number of `processor` lines, the number in the last `cpu cores` line, and the number of
distinct numbers in `physical id` lines.
-/

set_option autoImplicit false

namespace DslinkSystem

open TextScan DistinctCount

/-- A file: it may be absent, and else has lines. -/
abbrev FileContent := Option (List Text)

/-- `quantities_t`: hyperthreads, physical cores, and physical units. -/
structure Quantities where
  logical : UInt32 := 0
  physical : Text := []
  packages : UInt32 := 0
  deriving DecidableEq, Repr

namespace Linux

/-! ## Keys -/

/-- The texts that lines are compared with. -/
def cpuMHz : Text := "cpu MHz".toList
def physicalId : Text := "physical id".toList
def processor : Text := "processor".toList
def cpuCores : Text := "cpu cores".toList
def vendor : Text := "vendor".toList
def modelName : Text := "model name".toList

/-- The characters that are searched for as the first of a number. -/
def digits : Text := "1234567890".toList

theorem mem_digits_iff {c : Char} : c ∈ digits ↔ c.isDigit = true := by
  constructor
  · have each : ∀ d ∈ digits, d.isDigit = true := List.all_eq_true.mp (by decide)
    exact each c
  · intro digit
    simp only [Char.isDigit, Bool.and_eq_true, decide_eq_true_eq] at digit
    have low : 48 ≤ c.toNat := digit.1
    have high : c.toNat ≤ 57 := digit.2
    have each : ∀ n < 10, Char.ofNat (48 + n) ∈ digits := by decide
    have member := each (c.toNat - 48) (by omega)
    rwa [Nat.add_sub_cancel' low, Char.ofNat_toNat] at member

/-! ## The frequency -/

/-- `info::cpu::get_frequency()`. Without the file or without the line it returns zero, a
null pointer. Without a colon the whole line is taken (`next`). -/
def getFrequency (cpuinfo : FileContent) : Option Text := do
  let lines ← cpuinfo
  let line ← lines.find? (startsWith cpuMHz)
  let frequency ← pointer line (next (findFirstOf [':'] line))
  return cString frequency ++ " MHz".toList

/-- There is a frequency exactly when there is a line for it. -/
theorem getFrequency_eq_none_iff {cpuinfo : FileContent} :
    getFrequency cpuinfo = none ↔
      ∀ lines, cpuinfo = some lines → ∀ line ∈ lines, startsWith cpuMHz line = false := by
  cases cpuinfo with
  | none => simp [getFrequency]
  | some lines =>
      cases found : lines.find? (startsWith cpuMHz) with
      | none =>
          have never := List.find?_eq_none.mp found
          simp only [getFrequency, Option.bind_eq_bind, Option.bind_some, found, Option.bind_none,
            Option.some.injEq, forall_eq', true_iff]
          exact fun line member => Bool.eq_false_iff.mpr (never line member)
      | some line =>
          have member := List.mem_of_find?_eq_some found
          have begins := List.find?_some found
          have within := next_findFirstOf_le [':'] line
          simp only [getFrequency, Option.bind_eq_bind, Option.bind_some, found,
            pointer_of_le within, Option.some.injEq, forall_eq']
          refine iff_of_false (by simp) fun never => ?_
          rw [never line member] at begins
          cases begins

/-! ## The value of a key -/

/-- `cpuinfo_value(key)`. Without the file it returns zero, a null pointer. -/
def cpuinfoValue (key : Text) (cpuinfo : FileContent) : Option Text := do
  let lines ← cpuinfo
  match lines.find? (startsWith key) with
  | some line =>
      let value ← pointer line
        (next ((findFirstOf [':'] line).bind (findFirstNotOf [' ', '\t'] line)))
      return cString value
  | none => return []

/-- `info::cpu::get_vendor()`. -/
def getVendor (cpuinfo : FileContent) : Option Text := cpuinfoValue vendor cpuinfo

/-- `info::cpu::get_model_name()`. -/
def getModelName (cpuinfo : FileContent) : Option Text := cpuinfoValue modelName cpuinfo

/-- There is a value exactly when there is a file. -/
theorem cpuinfoValue_eq_none_iff {key : Text} {cpuinfo : FileContent} :
    cpuinfoValue key cpuinfo = none ↔ cpuinfo = none := by
  cases cpuinfo with
  | none => simp [cpuinfoValue]
  | some lines =>
      cases found : lines.find? (startsWith key) with
      | none => simp [cpuinfoValue, found]
      | some line =>
          have within : next ((findFirstOf [':'] line).bind (findFirstNotOf [' ', '\t'] line)) ≤
              line.length := by
            cases findFirstOf [':'] line with
            | none => exact Nat.zero_le _
            | some colon => exact next_findFirstNotOf_le _ _ _
          simp [cpuinfoValue, found, pointer_of_le within]

/-! ## The quantities -/

/-- What the loop over `/proc/cpuinfo` has read: `ret.logical`, `ret.physical` and
`package_ids`. -/
structure CpuScan where
  logical : UInt32 := 0
  physical : Text := []
  packageIds : List UInt32 := []
  deriving DecidableEq, Repr

/-- One turn of the loop. -/
def scanCpuLine (scan : CpuScan) (line : Text) : Option CpuScan :=
  if startsWith physicalId line then do
    let number ← pointerTo line (findFirstOf digits line)
    return { scan with packageIds := scan.packageIds ++ [(strtoul number).value.toUInt32] }
  else if startsWith processor line then
    some { scan with logical := scan.logical + 1 }
  else if startsWith cpuCores line then do
    let number ← pointerTo line (findFirstOf digits line)
    return { scan with physical := cString number }
  else some scan

/-- `info::cpu::get_cpu_quantities()`. -/
def getCpuQuantities (cpuinfo : FileContent) : Option Quantities :=
  match cpuinfo with
  | none => some {}
  | some lines => do
      let scan ← lines.foldlM scanCpuLine {}
      return {
        logical := scan.logical
        physical := scan.physical
        packages := UInt32.ofNat (distinctCount scan.packageIds) }

/-- `info::cpu::get_cpu_cores()`. -/
def getCpuCores (cpuinfo : FileContent) : Option Text := (getCpuQuantities cpuinfo).map (·.physical)

/-- The number that the loop takes from a `physical id` line. -/
def packageIdOf (line : Text) : Option UInt32 :=
  if startsWith physicalId line then
    (pointerTo line (findFirstOf digits line)).map fun number => (strtoul number).value.toUInt32
  else none

/-- What the loop takes from a `cpu cores` line. -/
def coresOf (line : Text) : Option Text :=
  if startsWith cpuCores line then
    (pointerTo line (findFirstOf digits line)).map cString
  else none

/-- The line has a digit, if it is one of those in which one is searched. -/
def readable (line : Text) : Bool :=
  !(startsWith physicalId line || startsWith cpuCores line) || line.any Char.isDigit

theorem pointerTo_digits_eq_none_iff {line : Text} :
    pointerTo line (findFirstOf digits line) = none ↔ line.any Char.isDigit = false := by
  rw [pointerTo_findFirstOf_eq_none_iff, List.any_eq_false]
  simp only [mem_digits_iff]

/-- A line with a digit, or in which none is searched, is read. -/
theorem scanCpuLine_of_readable (scan : CpuScan) {line : Text} (reads : readable line = true) :
    scanCpuLine scan line = some {
      logical := scan.logical + if startsWith processor line then 1 else 0
      physical := (coresOf line).getD scan.physical
      packageIds := scan.packageIds ++ (packageIdOf line).toList } := by
  have found : line.any Char.isDigit = true →
      ∃ number, pointerTo line (findFirstOf digits line) = some number := by
    intro digit
    refine Option.ne_none_iff_exists'.mp fun none_found => ?_
    rw [pointerTo_digits_eq_none_iff.mp none_found] at digit
    cases digit
  cases isId : startsWith physicalId line with
  | true =>
      obtain ⟨number, there⟩ := found (by simpa [readable, isId] using reads)
      have notProcessor : startsWith processor line = false :=
        startsWith_eq_false isId (by decide)
      have notCores : startsWith cpuCores line = false := startsWith_eq_false isId (by decide)
      simp [scanCpuLine, packageIdOf, coresOf, isId, notProcessor, notCores, there]
  | false =>
      cases isProcessor : startsWith processor line with
      | true =>
          have notCores : startsWith cpuCores line = false :=
            startsWith_eq_false isProcessor (by decide)
          simp [scanCpuLine, packageIdOf, coresOf, isId, isProcessor, notCores]
      | false =>
          cases isCores : startsWith cpuCores line with
          | true =>
              obtain ⟨number, there⟩ := found (by simpa [readable, isId, isCores] using reads)
              simp [scanCpuLine, packageIdOf, coresOf, isId, isProcessor, isCores, there]
          | false => simp [scanCpuLine, packageIdOf, coresOf, isId, isProcessor, isCores]

/-- A line in which a digit is searched and not found is not read. -/
theorem scanCpuLine_of_not_readable (scan : CpuScan) {line : Text}
    (fails : readable line = false) : scanCpuLine scan line = none := by
  simp only [readable, Bool.or_eq_false_iff, Bool.not_eq_false', Bool.or_eq_true] at fails
  have none_found := pointerTo_digits_eq_none_iff.mpr fails.2
  cases isId : startsWith physicalId line with
  | true => simp [scanCpuLine, isId, none_found]
  | false =>
      have isCores : startsWith cpuCores line = true := by simpa [isId] using fails.1
      have notProcessor : startsWith processor line = false :=
        startsWith_eq_false isCores (by decide)
      simp [scanCpuLine, isId, notProcessor, isCores, none_found]

/-- The loop over lines that can be read. -/
theorem foldlM_scanCpuLine {lines : List Text} (reads : ∀ line ∈ lines, readable line = true)
    (scan : CpuScan) :
    lines.foldlM scanCpuLine scan = some {
      logical := scan.logical + UInt32.ofNat (lines.countP (startsWith processor))
      physical := (lines.filterMap coresOf).getLast?.getD scan.physical
      packageIds := scan.packageIds ++ lines.filterMap packageIdOf } := by
  induction lines generalizing scan with
  | nil => simp
  | cons line lines ih =>
      rw [List.foldlM_cons, scanCpuLine_of_readable scan (reads line List.mem_cons_self),
        Option.bind_eq_bind, Option.bind_some,
        ih fun other member => reads other (List.mem_cons_of_mem _ member)]
      congr 2
      · rw [List.countP_cons]
        cases startsWith processor line with
        | true => simp [UInt32.ofNat_add, UInt32.add_comm, UInt32.add_assoc]
        | false => simp
      · cases cores : coresOf line with
        | none => simp [cores]
        | some text => simp [cores, List.getLast?_cons]
      · cases packageId : packageIdOf line with
        | none => simp [packageId]
        | some id => simp [packageId]

/-- The loop over lines one of which cannot be read. -/
theorem foldlM_scanCpuLine_eq_none {lines : List Text} {line : Text} (member : line ∈ lines)
    (fails : readable line = false) (scan : CpuScan) : lines.foldlM scanCpuLine scan = none := by
  induction lines generalizing scan with
  | nil => cases member
  | cons first lines ih =>
      rw [List.foldlM_cons]
      rcases List.mem_cons.mp member with rfl | later
      · rw [scanCpuLine_of_not_readable scan fails]
        rfl
      · cases scanCpuLine scan first with
        | none => rfl
        | some next => exact ih later next

/-- **What `get_cpu_quantities` returns**: the number of `processor` lines, what stands last in
a `cpu cores` line, and the number of distinct numbers in `physical id` lines. -/
theorem getCpuQuantities_eq {lines : List Text} (reads : ∀ line ∈ lines, readable line = true) :
    getCpuQuantities (some lines) = some {
      logical := UInt32.ofNat (lines.countP (startsWith processor))
      physical := (lines.filterMap coresOf).getLast?.getD []
      packages := UInt32.ofNat (lines.filterMap packageIdOf).toFinset.card } := by
  rw [getCpuQuantities, foldlM_scanCpuLine reads]
  simp [distinctCount_eq_card]

/-- There is no result exactly when a digit is searched in a line and not found. -/
theorem getCpuQuantities_eq_none_iff {cpuinfo : FileContent} :
    getCpuQuantities cpuinfo = none ↔
      ∃ lines, cpuinfo = some lines ∧ ∃ line ∈ lines, readable line = false := by
  cases cpuinfo with
  | none => simp [getCpuQuantities]
  | some lines =>
      by_cases fails : ∃ line ∈ lines, readable line = false
      · obtain ⟨line, member, bad⟩ := fails
        refine iff_of_true ?_ ⟨lines, rfl, line, member, bad⟩
        rw [getCpuQuantities, foldlM_scanCpuLine_eq_none member bad]
        rfl
      · have reads : ∀ line ∈ lines, readable line = true := by simpa using fails
        refine iff_of_false (by simp [getCpuQuantities_eq reads]) ?_
        rintro ⟨lines', same, bad⟩
        exact fails (Option.some.inj same ▸ bad)

end Linux

end DslinkSystem
