import DslinkSystem.Info.StatEntries

/-!
# The usage as a percentage

`get_cpu_usage` subtracts the active and the idle time of two snapshots without a sign, and
divides by the sum of the differences. The counters of a host do not decrease, except that of
`iowait`; and none of them need change between two snapshots.

The subtractions do not wrap and the divisor is not zero exactly when neither of the two
times decreases, as far as 64 bits tell, and one of them changes
(`cpu_usage_percentage_iff`). For times that fit in 64 bits this is so unless `iowait`
decreases by more than `idle` increases, or nothing changes.
-/

set_option autoImplicit false

namespace DslinkSystem

open TextScan

namespace Linux

/-- The counters that `GetActiveTime` adds. -/
def CPUStates.isActive : CPUStates → Bool
  | .idle | .iowait => false
  | _ => true

/-- The sum of the active counters. -/
def activeSum (e : CPUData) : ℕ := busySum e + guestSum e

theorem toNat_getActiveTime_mod (e : CPUData) :
    (getActiveTime e).toNat = activeSum e % 2 ^ 64 := by
  simp only [getActiveTime, activeSum, busySum, guestSum, UInt64.toNat_add]
  omega

theorem toNat_getIdleTime_mod (e : CPUData) : (getIdleTime e).toNat = idleSum e % 2 ^ 64 := by
  simp only [getIdleTime, idleSum, UInt64.toNat_add]

variable {stat1 stat2 : FileContent} {first second : CPUData}

/-- No counter decreases, except perhaps that of `iowait`. -/
def Grows (first second : CPUData) : Prop :=
  ∀ state, state ≠ .iowait → (first.time state).toNat ≤ (second.time state).toNat

/-- The usage is a percentage: no subtraction wraps, the divisor is not zero, and the result is
between 0 and 100. -/
structure UsageIsPercentage (stat1 stat2 : FileContent) (first second : CPUData) : Prop where
  activeTime : getActiveTime first ≤ getActiveTime second
  idleTime : getIdleTime first ≤ getIdleTime second
  totalTime : (getActiveTime second - getActiveTime first).toNat +
    (getIdleTime second - getIdleTime first).toNat ≠ 0
  percentage : ∃ usage, getCpuUsage stat1 stat2 = some (some usage) ∧ 0 ≤ usage ∧ usage ≤ 100

/-- Neither sum decreases modulo `2 ^ 64`, and one of them changes. -/
structure TimePasses (first second : CPUData) : Prop where
  active : activeSum first % 2 ^ 64 ≤ activeSum second % 2 ^ 64
  idle : idleSum first % 2 ^ 64 ≤ idleSum second % 2 ^ 64
  passes : activeSum first % 2 ^ 64 ≠ activeSum second % 2 ^ 64 ∨
    idleSum first % 2 ^ 64 ≠ idleSum second % 2 ^ 64

/-- A share of the whole is between nothing and a hundred percent. -/
theorem usage_between (passes : (getActiveTime second - getActiveTime first).toNat +
    (getIdleTime second - getIdleTime first).toNat ≠ 0) :
    ∃ percentage, usage first second = some percentage ∧ 0 ≤ percentage ∧ percentage ≤ 100 := by
  have active : (0 : ℚ) ≤ (getActiveTime second - getActiveTime first).toNat := Nat.cast_nonneg _
  have idle : (0 : ℚ) ≤ (getIdleTime second - getIdleTime first).toNat := Nat.cast_nonneg _
  have whole := add_nonneg active idle
  have divisor : ((getActiveTime second - getActiveTime first).toNat : ℚ) +
      ((getIdleTime second - getIdleTime first).toNat : ℚ) ≠ 0 := by
    exact_mod_cast passes
  refine ⟨_, if_neg divisor, div_nonneg (mul_nonneg (by norm_num) active) whole,
    div_le_of_le_mul₀ whole ?_ ?_⟩
  · norm_num
  · exact mul_le_mul_of_nonneg_left (le_add_of_nonneg_right idle) (by norm_num)

/-- The times of two snapshots are compared as the sums are, modulo `2 ^ 64`. -/
theorem times_le_iff :
    getActiveTime first ≤ getActiveTime second ∧ getIdleTime first ≤ getIdleTime second ↔
      activeSum first % 2 ^ 64 ≤ activeSum second % 2 ^ 64 ∧
        idleSum first % 2 ^ 64 ≤ idleSum second % 2 ^ 64 := by
  simp only [UInt64.le_iff_toNat_le, toNat_getActiveTime_mod, toNat_getIdleTime_mod]

/-- When neither time decreases, the divisor is zero unless one of them changes. -/
theorem totalTime_ne_zero_iff (active : getActiveTime first ≤ getActiveTime second)
    (idle : getIdleTime first ≤ getIdleTime second) :
    (getActiveTime second - getActiveTime first).toNat +
        (getIdleTime second - getIdleTime first).toNat ≠ 0 ↔
      activeSum first % 2 ^ 64 ≠ activeSum second % 2 ^ 64 ∨
        idleSum first % 2 ^ 64 ≠ idleSum second % 2 ^ 64 := by
  have activeLe := UInt64.le_iff_toNat_le.mp active
  have idleLe := UInt64.le_iff_toNat_le.mp idle
  rw [toNat_sub_of_toNat_le activeLe, toNat_sub_of_toNat_le idleLe]
  rw [toNat_getActiveTime_mod, toNat_getActiveTime_mod] at activeLe ⊢
  rw [toNat_getIdleTime_mod, toNat_getIdleTime_mod] at idleLe ⊢
  omega

/-- The usage is a percentage exactly when time passes. -/
theorem usageIsPercentage_iff (reading1 : (readStatsCPU stat1).head? = some first)
    (reading2 : (readStatsCPU stat2).head? = some second) :
    UsageIsPercentage stat1 stat2 first second ↔ TimePasses first second := by
  constructor
  · intro percentage
    obtain ⟨activeLe, idleLe⟩ := times_le_iff.mp ⟨percentage.activeTime, percentage.idleTime⟩
    exact ⟨activeLe, idleLe,
      (totalTime_ne_zero_iff percentage.activeTime percentage.idleTime).mp percentage.totalTime⟩
  · intro passes
    obtain ⟨active, idle⟩ := times_le_iff.mpr ⟨passes.active, passes.idle⟩
    have totalTime := (totalTime_ne_zero_iff active idle).mpr passes.passes
    obtain ⟨percentage, isUsage, bounds⟩ := usage_between totalTime
    refine ⟨active, idle, totalTime, percentage, ?_, bounds⟩
    simp [getCpuUsage, reading1, reading2, isUsage]

/-! ## Times that fit in 64 bits -/

/-- Some active counter increases. -/
def ActiveIncreases (first second : CPUData) : Prop :=
  ∃ state : CPUStates, state.isActive = true ∧
    (first.time state).toNat < (second.time state).toNat

/-- An active counter that does not increase stays as it is. -/
theorem Grows.eq_of_not_increases (grows : Grows first second)
    (still : ¬ ActiveIncreases first second) {state : CPUStates} (active : state.isActive = true) :
    (first.time state).toNat = (second.time state).toNat := by
  have other : state ≠ .iowait := by
    rintro rfl
    cases active
  refine Nat.le_antisymm (grows state other) (Nat.le_of_not_lt fun increases => ?_)
  exact still ⟨state, active, increases⟩

/-- The active sum does not decrease, and it changes exactly when an active counter does. -/
theorem Grows.activeSum (grows : Grows first second) :
    activeSum first ≤ activeSum second ∧
      (activeSum first ≠ activeSum second ↔ ActiveIncreases first second) := by
  have user := grows .user (by decide)
  have nice := grows .nice (by decide)
  have system := grows .system (by decide)
  have irq := grows .irq (by decide)
  have softirq := grows .softirq (by decide)
  have steal := grows .steal (by decide)
  have guest := grows .guest (by decide)
  have guestNice := grows .guestNice (by decide)
  refine ⟨?_, ?_, ?_⟩
  · simp only [Linux.activeSum, busySum, guestSum]
    omega
  · intro changes
    by_contra still
    apply changes
    have same : ∀ {state : CPUStates}, state.isActive = true →
        (first.time state).toNat = (second.time state).toNat := grows.eq_of_not_increases still
    simp only [Linux.activeSum, busySum, guestSum, @same .user rfl, @same .nice rfl,
      @same .system rfl, @same .irq rfl, @same .softirq rfl, @same .steal rfl, @same .guest rfl,
      @same .guestNice rfl]
  · rintro ⟨state, active, increases⟩
    simp only [Linux.activeSum, busySum, guestSum]
    cases state with
    | idle | iowait => cases active
    | user | nice | system | irq | softirq | steal | guest | guestNice => omega

/-- When the sums fit in 64 bits, they say themselves whether time passes. -/
theorem timePasses_iff_sums (active1 : activeSum first < 2 ^ 64)
    (active2 : activeSum second < 2 ^ 64) (idle1 : idleSum first < 2 ^ 64)
    (idle2 : idleSum second < 2 ^ 64) :
    TimePasses first second ↔ activeSum first ≤ activeSum second ∧
      idleSum first ≤ idleSum second ∧
        (activeSum first ≠ activeSum second ∨ idleSum first ≠ idleSum second) := by
  have fields : TimePasses first second ↔
      activeSum first % 2 ^ 64 ≤ activeSum second % 2 ^ 64 ∧
        idleSum first % 2 ^ 64 ≤ idleSum second % 2 ^ 64 ∧
          (activeSum first % 2 ^ 64 ≠ activeSum second % 2 ^ 64 ∨
            idleSum first % 2 ^ 64 ≠ idleSum second % 2 ^ 64) := by
    constructor
    · intro passes
      exact ⟨passes.active, passes.idle, passes.passes⟩
    · rintro ⟨active, idle, passes⟩
      exact ⟨active, idle, passes⟩
  rw [fields, Nat.mod_eq_of_lt active1, Nat.mod_eq_of_lt active2, Nat.mod_eq_of_lt idle1,
    Nat.mod_eq_of_lt idle2]

/-- When the sums fit in 64 bits, time passes exactly when `iowait` decreases by no more than
`idle` increases, and an active counter increases or the idle sum changes. -/
theorem timePasses_iff_of_lt (grows : Grows first second) (active : activeSum second < 2 ^ 64)
    (idle1 : idleSum first < 2 ^ 64) (idle2 : idleSum second < 2 ^ 64) :
    TimePasses first second ↔
      (first.time .iowait).toNat - (second.time .iowait).toNat ≤
          (second.time .idle).toNat - (first.time .idle).toNat ∧
        (ActiveIncreases first second ∨ idleSum first ≠ idleSum second) := by
  obtain ⟨activeLe, changes⟩ := grows.activeSum
  have idleGrows := grows .idle (by decide)
  have idleLe : idleSum first ≤ idleSum second ↔
      (first.time .iowait).toNat - (second.time .iowait).toNat ≤
        (second.time .idle).toNat - (first.time .idle).toNat := by
    simp only [idleSum]
    omega
  have active1 : activeSum first < 2 ^ 64 := Nat.lt_of_le_of_lt activeLe active
  rw [timePasses_iff_sums active1 active idle1 idle2, ← idleLe, ← changes]
  exact and_iff_right activeLe

/-- **When the usage is a percentage.** For counters that grow, it is exactly when neither sum
decreases modulo `2 ^ 64` and one changes. For sums that fit in 64 bits, this is when `iowait`
decreases by no more than `idle` increases, and not every sum stays as it is. -/
theorem cpu_usage_percentage_iff (reading1 : (readStatsCPU stat1).head? = some first)
    (reading2 : (readStatsCPU stat2).head? = some second) (grows : Grows first second) :
    (UsageIsPercentage stat1 stat2 first second ↔ TimePasses first second) ∧
      (activeSum second < 2 ^ 64 → idleSum first < 2 ^ 64 → idleSum second < 2 ^ 64 →
        (UsageIsPercentage stat1 stat2 first second ↔
          (first.time .iowait).toNat - (second.time .iowait).toNat ≤
              (second.time .idle).toNat - (first.time .idle).toNat ∧
            (ActiveIncreases first second ∨ idleSum first ≠ idleSum second))) := by
  refine ⟨usageIsPercentage_iff reading1 reading2, ?_⟩
  intro active idle1 idle2
  rw [usageIsPercentage_iff reading1 reading2, timePasses_iff_of_lt grows active idle1 idle2]

theorem head?_readStatsCPU_statOf (times : Vector UInt64 10) :
    (readStatsCPU (statOf times)).head? = some ⟨"tot".toList, times⟩ := by
  rw [readStatsCPU_statOf, List.head?_cons]

theorem cpu_usage_percentage_after_boot :
    (readStatsCPU (statOf atBoot.times)).head? = some atBoot ∧
      (readStatsCPU (statOf withoutGuests.times)).head? = some withoutGuests ∧
        Grows atBoot withoutGuests ∧
          UsageIsPercentage (statOf atBoot.times) (statOf withoutGuests.times) atBoot
            withoutGuests := by
  have reading1 := head?_readStatsCPU_statOf atBoot.times
  have reading2 := head?_readStatsCPU_statOf withoutGuests.times
  have grows : Grows atBoot withoutGuests := fun state _ => successive_withoutGuests.counters state
  refine ⟨reading1, reading2, grows, ?_⟩
  exact (cpu_usage_percentage_iff reading1 reading2 grows).1.mpr
    ⟨by decide, by decide, .inl (by decide)⟩

/-- When nothing changes between the snapshots, zero is divided by zero. -/
theorem cpu_usage_divides_by_zero :
    ¬ ∀ (stat1 stat2 : FileContent) (first second : CPUData),
      (readStatsCPU stat1).head? = some first → (readStatsCPU stat2).head? = some second →
        Grows first second → UsageIsPercentage stat1 stat2 first second := by
  intro every
  have reading := head?_readStatsCPU_statOf atBoot.times
  have percentage := every _ _ _ _ reading reading fun _ _ => Nat.le_refl _
  exact percentage.totalTime (by simp)

end Linux

end DslinkSystem
