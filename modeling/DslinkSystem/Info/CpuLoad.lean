import DslinkSystem.Info.CpuUsage

/-!
# The processor load on Windows

`CalculateCPULoad` keeps the ticks of the call before in static variables. It takes the idle
ticks since then for their share of all ticks since then, and returns what remains. An
interval without ticks counts as one without idle ticks. Its arithmetic is in floating point;
here it is exact.

Over any sequence of calls each load is between zero and one, and the loads, each weighted by the
ticks of its interval, account for all ticks that were not idle (`cpu_load_accounts`).
-/

set_option autoImplicit false

namespace DslinkSystem

namespace Windows

/-- The ticks of a call, which are those kept in `_previousTotalTicks` and
`_previousIdleTicks` after it. -/
structure Ticks where
  idleTicks : UInt64 := 0
  totalTicks : UInt64 := 0
  deriving DecidableEq, Repr

/-- `CalculateCPULoad(idleTicks, totalTicks)`: the load, and the ticks that are kept. -/
def calculateCPULoad (previous : Ticks) (idleTicks totalTicks : UInt64) : Option (ℚ × Ticks) := do
  let totalTicksSinceLastTime := totalTicks - previous.totalTicks
  let idleTicksSinceLastTime := idleTicks - previous.idleTicks
  let idleShare ←
    if totalTicksSinceLastTime > 0 then
      divide idleTicksSinceLastTime.toNat totalTicksSinceLastTime.toNat
    else some 0
  return (1 - idleShare, { idleTicks, totalTicks })

/-- The loads of calls one after another. -/
def loads : Ticks → List Ticks → Option (List ℚ)
  | _, [] => some []
  | previous, reading :: readings => do
      let (load, kept) ← calculateCPULoad previous reading.idleTicks reading.totalTicks
      let later ← loads kept readings
      return load :: later

/-! ## One call -/

/-- From one reading to the next neither count decreases, and the idle ticks increase by no more
than all ticks. -/
structure Advances (previous reading : Ticks) : Prop where
  idle : previous.idleTicks ≤ reading.idleTicks
  total : previous.totalTicks ≤ reading.totalTicks
  increase : reading.idleTicks.toNat - previous.idleTicks.toNat ≤
    reading.totalTicks.toNat - previous.totalTicks.toNat

/-- The ticks of an interval, and the idle ones. -/
def totalIncrease (previous reading : Ticks) : ℚ :=
  (reading.totalTicks.toNat : ℚ) - (previous.totalTicks.toNat : ℚ)

def idleIncrease (previous reading : Ticks) : ℚ :=
  (reading.idleTicks.toNat : ℚ) - (previous.idleTicks.toNat : ℚ)

variable {previous reading : Ticks}

/-- The divisor is never zero. -/
theorem exists_calculateCPULoad (previous : Ticks) (idleTicks totalTicks : UInt64) :
    ∃ load, calculateCPULoad previous idleTicks totalTicks =
      some (load, { idleTicks, totalTicks }) := by
  unfold calculateCPULoad
  by_cases some_ticks : totalTicks - previous.totalTicks > 0
  · have divisor : ((totalTicks - previous.totalTicks).toNat : ℚ) ≠ 0 := by
      have positive : 0 < (totalTicks - previous.totalTicks).toNat := some_ticks
      exact_mod_cast Nat.ne_of_gt positive
    simp [some_ticks, divide, divisor]
  · simp [some_ticks]

theorem Advances.casts (advances : Advances previous reading) :
    (((reading.totalTicks - previous.totalTicks).toNat : ℕ) : ℚ) =
        totalIncrease previous reading ∧
      (((reading.idleTicks - previous.idleTicks).toNat : ℕ) : ℚ) =
        idleIncrease previous reading := by
  have total := UInt64.le_iff_toNat_le.mp advances.total
  have idle := UInt64.le_iff_toNat_le.mp advances.idle
  rw [Linux.toNat_sub_of_toNat_le total, Linux.toNat_sub_of_toNat_le idle, totalIncrease,
    idleIncrease, Nat.cast_sub total, Nat.cast_sub idle]
  exact ⟨rfl, rfl⟩

theorem Advances.between (advances : Advances previous reading) :
    0 ≤ idleIncrease previous reading ∧
      idleIncrease previous reading ≤ totalIncrease previous reading := by
  obtain ⟨total, idle⟩ := advances.casts
  have idleLe := UInt64.le_iff_toNat_le.mp advances.idle
  have totalLe := UInt64.le_iff_toNat_le.mp advances.total
  have increase := advances.increase
  rw [← total, ← idle, Linux.toNat_sub_of_toNat_le totalLe, Linux.toNat_sub_of_toNat_le idleLe]
  exact ⟨Nat.cast_nonneg _, by exact_mod_cast increase⟩

/-- **One call accounts for its interval**: the load is between zero and one, and its part of the
interval is what was not idle. -/
theorem calculateCPULoad_accounts (advances : Advances previous reading) :
    ∃ load, calculateCPULoad previous reading.idleTicks reading.totalTicks = some (load, reading) ∧
      0 ≤ load ∧ load ≤ 1 ∧
        load * totalIncrease previous reading =
          totalIncrease previous reading - idleIncrease previous reading := by
  obtain ⟨total, idle⟩ := advances.casts
  obtain ⟨nonneg, bounded⟩ := advances.between
  by_cases some_ticks : reading.totalTicks - previous.totalTicks > 0
  · have positive : 0 < totalIncrease previous reading := by
      have positive' : 0 < (reading.totalTicks - previous.totalTicks).toNat := some_ticks
      rw [← total]
      exact_mod_cast positive'
    have divisor := ne_of_gt positive
    refine ⟨1 - idleIncrease previous reading / totalIncrease previous reading, ?_, ?_, ?_, ?_⟩
    · simp [calculateCPULoad, some_ticks, divide, total, idle, divisor]
    · exact sub_nonneg.mpr ((div_le_one₀ positive).mpr bounded)
    · exact sub_le_self 1 (div_nonneg nonneg (le_of_lt positive))
    · rw [sub_mul, one_mul, div_mul_cancel₀ _ divisor]
  · -- Without ticks there are no idle ones either, and any load accounts for them.
    have none_passed : totalIncrease previous reading = 0 := by
      have zero : ¬ 0 < (reading.totalTicks - previous.totalTicks).toNat := some_ticks
      rw [← total, Nat.eq_zero_of_not_pos zero, Nat.cast_zero]
    have none_idle : idleIncrease previous reading = 0 :=
      le_antisymm (none_passed ▸ bounded) nonneg
    refine ⟨1, ?_, zero_le_one, le_refl 1, ?_⟩
    · simp [calculateCPULoad, some_ticks]
    · rw [none_passed, none_idle, mul_zero, sub_zero]

/-! ## Many calls -/

/-- The ticks of the intervals between readings. -/
def totalIncreases : Ticks → List Ticks → List ℚ
  | _, [] => []
  | previous, reading :: readings =>
      totalIncrease previous reading :: totalIncreases reading readings

/-- The last reading, and what is kept before there is one. -/
def lastReading (previous : Ticks) (readings : List Ticks) : Ticks := readings.getLastD previous

/-- The loads, each weighted by the ticks of its interval. -/
def busyTicks (loads : List ℚ) (previous : Ticks) (readings : List Ticks) : ℚ :=
  (List.zipWith (· * ·) loads (totalIncreases previous readings)).sum

/-- There is one load for each call. -/
theorem length_loads {previous : Ticks} {readings : List Ticks} {values : List ℚ}
    (called : loads previous readings = some values) : values.length = readings.length := by
  induction readings generalizing previous values with
  | nil =>
      obtain rfl := Option.some.inj called
      rfl
  | cons reading readings ih =>
      obtain ⟨load, first⟩ :=
        exists_calculateCPULoad previous reading.idleTicks reading.totalTicks
      cases rest : loads reading readings with
      | none => simp [loads, first, rest] at called
      | some later =>
          have both : load :: later = values := by simpa [loads, first, rest] using called
          rw [← both, List.length_cons, List.length_cons, ih rest]

/-- Calls one after another account for the ticks from the first to the last. -/
theorem loads_account {readings : List Ticks} (previous : Ticks)
    (advance : List.IsChain Advances (previous :: readings)) :
    ∃ values, loads previous readings = some values ∧ (∀ load ∈ values, 0 ≤ load ∧ load ≤ 1) ∧
      busyTicks values previous readings =
        totalIncrease previous (lastReading previous readings) -
          idleIncrease previous (lastReading previous readings) := by
  induction readings generalizing previous with
  | nil => exact ⟨[], rfl, by simp, by simp [busyTicks, lastReading, totalIncrease, idleIncrease]⟩
  | cons reading readings ih =>
      obtain ⟨advances, later⟩ := List.isChain_cons_cons.mp advance
      obtain ⟨load, called, nonneg, bounded, interval⟩ := calculateCPULoad_accounts advances
      obtain ⟨values, called', between, total⟩ := ih reading later
      have last : lastReading previous (reading :: readings) = lastReading reading readings := by
        rw [lastReading, lastReading, List.getLastD_cons]
      refine ⟨load :: values, ?_, ?_, ?_⟩
      · simp [loads, called, called']
      · rintro value (_ | ⟨_, member⟩)
        · exact ⟨nonneg, bounded⟩
        · exact between value member
      · have split : busyTicks (load :: values) previous (reading :: readings) =
            load * totalIncrease previous reading + busyTicks values reading readings := by
          simp [busyTicks, totalIncreases]
        rw [split, interval, total, last]
        simp only [totalIncrease, idleIncrease]
        ring

/-- **The load accounts for every tick once.** For readings that advance from the initial ones,
no call divides by zero, every load is between zero and one, and the loads, weighted by the ticks
of their intervals, add up to the ticks that were not idle. -/
theorem cpu_load_accounts (readings : List Ticks)
    (advance : List.IsChain Advances ({} :: readings)) :
    ∃ values, loads {} readings = some values ∧ values.length = readings.length ∧
      (∀ load ∈ values, 0 ≤ load ∧ load ≤ 1) ∧
        busyTicks values {} readings =
          ((lastReading {} readings).totalTicks.toNat : ℚ) -
            ((lastReading {} readings).idleTicks.toNat : ℚ) := by
  obtain ⟨values, called, between, total⟩ := loads_account {} advance
  refine ⟨values, called, length_loads called, between, total.trans ?_⟩
  simp [totalIncrease, idleIncrease]

/-- Readings of a host: half idle, then without ticks, then mostly busy. -/
def hostReadings : List Ticks := [⟨50, 100⟩, ⟨50, 100⟩, ⟨60, 200⟩]

theorem advance_hostReadings : List.IsChain Advances ({} :: hostReadings) := by
  have first : Advances {} ⟨50, 100⟩ := ⟨by decide, by decide, by decide⟩
  have second : Advances ⟨50, 100⟩ ⟨50, 100⟩ := ⟨by decide, by decide, by decide⟩
  have third : Advances ⟨50, 100⟩ ⟨60, 200⟩ := ⟨by decide, by decide, by decide⟩
  simp [hostReadings, first, second, third]

theorem cpu_load_accounts_host :
    List.IsChain Advances ({} :: hostReadings) ∧
      ∃ values, loads {} hostReadings = some values ∧ values.length = hostReadings.length ∧
        (∀ load ∈ values, 0 ≤ load ∧ load ≤ 1) ∧
          busyTicks values {} hostReadings =
            ((lastReading {} hostReadings).totalTicks.toNat : ℚ) -
              ((lastReading {} hostReadings).idleTicks.toNat : ℚ) :=
  ⟨advance_hostReadings, cpu_load_accounts hostReadings advance_hostReadings⟩

/-! ## `get_cpu_usage` -/

/-- `FILETIME`. -/
structure FileTime where
  dwHighDateTime : UInt32
  dwLowDateTime : UInt32
  deriving DecidableEq, Repr

/-- `FileTimeToInt64`. -/
def fileTimeToInt64 (ft : FileTime) : UInt64 :=
  (ft.dwHighDateTime.toUInt64 <<< 32) ||| ft.dwLowDateTime.toUInt64

/-- What `GetSystemTimes` gives. -/
structure SystemTimes where
  idleTime : FileTime
  kernelTime : FileTime
  userTime : FileTime
  deriving DecidableEq, Repr

/-- The ticks that a call of `get_cpu_usage` hands on. -/
def SystemTimes.ticks (times : SystemTimes) : Ticks where
  idleTicks := fileTimeToInt64 times.idleTime
  totalTicks := fileTimeToInt64 times.kernelTime + fileTimeToInt64 times.userTime

/-- The number in the result of `info::cpu::get_cpu_usage()`, and the ticks that are kept. There is
no number in `"NA"`, which it returns when `GetSystemTimes` fails. -/
def getCpuUsage (previous : Ticks) (systemTimes : Option SystemTimes) :
    Option (Option ℚ × Ticks) :=
  match systemTimes with
  | none => some (none, previous)
  | some times => do
      let (load, kept) ←
        calculateCPULoad previous times.ticks.idleTicks times.ticks.totalTicks
      return (some (load * 100), kept)

/-- The two halves of a time are put together without loss. -/
theorem toNat_fileTimeToInt64 (ft : FileTime) :
    (fileTimeToInt64 ft).toNat = ft.dwHighDateTime.toNat * 2 ^ 32 + ft.dwLowDateTime.toNat := by
  have low := ft.dwLowDateTime.toNat_lt
  have high := ft.dwHighDateTime.toNat_lt
  have fits : ft.dwHighDateTime.toNat * 4294967296 % 18446744073709551616 =
      ft.dwHighDateTime.toNat * 4294967296 := Nat.mod_eq_of_lt (by omega)
  have joined := Nat.shiftLeft_add_eq_or_of_lt low ft.dwHighDateTime.toNat
  rw [Nat.shiftLeft_eq] at joined
  simp [fileTimeToInt64, Nat.shiftLeft_eq, fits, joined]

/-- A usage is a percentage when the times advance. -/
theorem getCpuUsage_between {previous : Ticks} {times : SystemTimes}
    (advances : Advances previous times.ticks) :
    ∃ usage, getCpuUsage previous (some times) = some (some usage, times.ticks) ∧
      0 ≤ usage ∧ usage ≤ 100 := by
  obtain ⟨load, called, nonneg, bounded, _⟩ := calculateCPULoad_accounts advances
  refine ⟨load * 100, by simp [getCpuUsage, called], by linarith, by linarith⟩

end Windows

end DslinkSystem
