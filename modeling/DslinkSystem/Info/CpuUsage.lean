import DslinkSystem.Info.CpuInfo
import DslinkSystem.Library.InputStream
import Mathlib.Data.Rat.Defs
import Mathlib.Tactic.FieldSimp
import Mathlib.Tactic.Linarith
import Mathlib.Tactic.Ring

/-!
# Reading `/proc/stat`

`ReadStatsCPU` takes a label and ten counters from each line for a processor, the first of
which is for all of them. `get_cpu_usage` takes two snapshots and divides the increase of
the active time by that of all time. Its arithmetic is in floating point; here it is exact.

The kernel counts the time of guests as time of users. `GetActiveTime` adds it once more, so the
usage is the share of busy time exactly when no time of guests passes or no idle time
(`cpu_usage_exact_iff`).
-/

set_option autoImplicit false

namespace DslinkSystem

open TextScan

/-- A quotient. There is none by zero. -/
def divide (a b : ℚ) : Option ℚ := if b = 0 then none else some (a / b)

namespace Linux

/-! ## The counters -/

/-- `CPUStates`. -/
inductive CPUStates where
  | user
  | nice
  | system
  | idle
  | iowait
  | irq
  | softirq
  | steal
  | guest
  | guestNice
  deriving DecidableEq, Repr

/-- The place of a counter in `times`. -/
def CPUStates.index : CPUStates → Fin 10
  | user => 0
  | nice => 1
  | system => 2
  | idle => 3
  | iowait => 4
  | irq => 5
  | softirq => 6
  | steal => 7
  | guest => 8
  | guestNice => 9

/-- `CPUData`. -/
structure CPUData where
  cpu : Text
  times : Vector UInt64 10
  deriving DecidableEq, Repr

/-- `e.times[S_…]`. -/
def CPUData.time (e : CPUData) (state : CPUStates) : UInt64 := e.times[state.index]

/-- The label and the counters of a line. -/
def readEntry (line : Text) : CPUData :=
  let word := extractWord (some line)
  { cpu := if 3 < word.1.length then word.1.drop 3 else "tot".toList
    times := ⟨(extractNumbers 10 word.2).toArray, by simp [length_extractNumbers]⟩ }

/-- `info::cpu::ReadStatsCPU()`. A file that is absent has no lines to read. -/
def readStatsCPU (stat : FileContent) : List CPUData :=
  ((stat.getD []).filter (startsWith "cpu".toList)).map readEntry

/-- `info::cpu::GetActiveTime`. -/
def getActiveTime (e : CPUData) : UInt64 :=
  e.time .user + e.time .nice + e.time .system + e.time .irq + e.time .softirq + e.time .steal +
    e.time .guest + e.time .guestNice

/-- `info::cpu::GetIdleTime`. -/
def getIdleTime (e : CPUData) : UInt64 := e.time .idle + e.time .iowait

/-- `100.f * ACTIVE_TIME / TOTAL_TIME`, exactly. Without any time there is no number. -/
def usage (first second : CPUData) : Option ℚ :=
  let activeTime : ℚ := (getActiveTime second - getActiveTime first).toNat
  let idleTime : ℚ := (getIdleTime second - getIdleTime first).toNat
  divide (100 * activeTime) (activeTime + idleTime)

/-- The number in the result of `info::cpu::get_cpu_usage()`, if it is one, for what it reads from
`/proc/stat` before and after its pause. There is no result when an entry is taken from an empty
vector. -/
def getCpuUsage (stat1 stat2 : FileContent) : Option (Option ℚ) := do
  let entry2 ← (readStatsCPU stat2).head?
  let entry1 ← (readStatsCPU stat1).head?
  return usage entry1 entry2

/-- There is a result exactly when both readings have a line for a processor. -/
theorem getCpuUsage_eq_none_iff {stat1 stat2 : FileContent} :
    getCpuUsage stat1 stat2 = none ↔
      readStatsCPU stat1 = [] ∨ readStatsCPU stat2 = [] := by
  unfold getCpuUsage
  cases readStatsCPU stat2 with
  | nil => simp
  | cons entry2 _ =>
      cases readStatsCPU stat1 with
      | nil => simp
      | cons entry1 _ => simp

theorem readStatsCPU_eq_nil_iff {stat : FileContent} :
    readStatsCPU stat = [] ↔
      ∀ lines, stat = some lines → ∀ line ∈ lines, startsWith "cpu".toList line = false := by
  rw [readStatsCPU, List.map_eq_nil_iff, List.filter_eq_nil_iff]
  cases stat with
  | none => simp
  | some lines => simp only [Option.getD_some, Bool.not_eq_true, Option.some.injEq, forall_eq']

/-! ## The time that passes -/

variable (e first second : CPUData)

/-- The time of users, system and interrupts. That of guests is part of it. -/
def busySum : ℕ :=
  (e.time .user).toNat + (e.time .nice).toNat + (e.time .system).toNat + (e.time .irq).toNat +
    (e.time .softirq).toNat + (e.time .steal).toNat

/-- The time of guests. -/
def guestSum : ℕ := (e.time .guest).toNat + (e.time .guestNice).toNat

/-- The time nothing is done. -/
def idleSum : ℕ := (e.time .idle).toNat + (e.time .iowait).toNat

/-- Two snapshots as the kernel counts: the time of guests is part of the time of users, and
neither part decreases, nor does any other counter. -/
structure Successive : Prop where
  counters : ∀ state, (first.time state).toNat ≤ (second.time state).toNat
  guest : (first.time .guest).toNat ≤ (first.time .user).toNat ∧
    (second.time .guest).toNat ≤ (second.time .user).toNat
  guestNice : (first.time .guestNice).toNat ≤ (first.time .nice).toNat ∧
    (second.time .guestNice).toNat ≤ (second.time .nice).toNat
  userOnly : (first.time .user).toNat - (first.time .guest).toNat ≤
    (second.time .user).toNat - (second.time .guest).toNat
  niceOnly : (first.time .nice).toNat - (first.time .guestNice).toNat ≤
    (second.time .nice).toNat - (second.time .guestNice).toNat

/-- The increase of the busy time, of the guests' time and of the idle time. -/
def busy : ℕ := busySum second - busySum first
def guests : ℕ := guestSum second - guestSum first
def idle : ℕ := idleSum second - idleSum first

/-- The usage is the share of the busy time in all time, and the differences of the sums do
not wrap. -/
structure UsageIsBusyShare : Prop where
  activeTime : (getActiveTime second - getActiveTime first).toNat =
    busySum second + guestSum second - (busySum first + guestSum first)
  idleTime : (getIdleTime second - getIdleTime first).toNat = idleSum second - idleSum first
  usage : usage first second =
    some (100 * (busy first second : ℚ) / ((busy first second : ℚ) + (idle first second : ℚ)))

variable {e first second}

/-- A sum that is small enough does not wrap. -/
theorem toNat_getActiveTime (small : busySum e + guestSum e < 2 ^ 64) :
    (getActiveTime e).toNat = busySum e + guestSum e := by
  simp only [busySum, guestSum] at small
  simp only [getActiveTime, UInt64.toNat_add, busySum, guestSum]
  omega

theorem toNat_getIdleTime (small : idleSum e < 2 ^ 64) : (getIdleTime e).toNat = idleSum e := by
  simp only [idleSum] at small
  simp only [getIdleTime, UInt64.toNat_add, idleSum]
  omega

/-- The difference of times that increase does not wrap. -/
theorem toNat_sub_of_toNat_le {a b : UInt64} (increases : a.toNat ≤ b.toNat) :
    (b - a).toNat = b.toNat - a.toNat :=
  UInt64.toNat_sub_of_le b a (UInt64.le_iff_toNat_le.mpr increases)

/-- The counters one by one, from `user` to `guest_nice`. -/
theorem Successive.each (successive : Successive first second) :
    (first.time .user).toNat ≤ (second.time .user).toNat ∧
      (first.time .nice).toNat ≤ (second.time .nice).toNat ∧
      (first.time .system).toNat ≤ (second.time .system).toNat ∧
      (first.time .idle).toNat ≤ (second.time .idle).toNat ∧
      (first.time .iowait).toNat ≤ (second.time .iowait).toNat ∧
      (first.time .irq).toNat ≤ (second.time .irq).toNat ∧
      (first.time .softirq).toNat ≤ (second.time .softirq).toNat ∧
      (first.time .steal).toNat ≤ (second.time .steal).toNat ∧
      (first.time .guest).toNat ≤ (second.time .guest).toNat ∧
      (first.time .guestNice).toNat ≤ (second.time .guestNice).toNat := by
  have counters := successive.counters
  exact ⟨counters _, counters _, counters _, counters _, counters _, counters _, counters _,
    counters _, counters _, counters _⟩

/-- The times of the second snapshot are at least those of the first. -/
theorem Successive.sums (successive : Successive first second) :
    busySum first ≤ busySum second ∧ guestSum first ≤ guestSum second ∧
      idleSum first ≤ idleSum second := by
  have each := successive.each
  simp only [busySum, guestSum, idleSum]
  omega

/-- When a counter increases, busy time passes or idle time: that of guests does not
increase alone. -/
theorem Successive.time_passes (successive : Successive first second)
    (differ : ∃ state, first.time state ≠ second.time state) :
    0 < busy first second + idle first second := by
  obtain ⟨state, different⟩ := differ
  have increases : (first.time state).toNat < (second.time state).toNat :=
    Nat.lt_of_le_of_ne (successive.counters state) fun same => different (UInt64.toNat_inj.mp same)
  have each := successive.each
  have userOnly := successive.userOnly
  have niceOnly := successive.niceOnly
  have guest := successive.guest
  have guestNice := successive.guestNice
  simp only [busy, idle, busySum, idleSum]
  cases state <;> omega

/-- Two shares of the whole agree exactly when what is added to one part of the first is
nothing, or the other part is. -/
theorem share_eq_iff {b g i : ℕ} (positive : 0 < b + i) :
    (100 * ((b + g : ℕ) : ℚ) / (((b + g : ℕ) : ℚ) + (i : ℚ)) = 100 * (b : ℚ) / ((b : ℚ) + (i : ℚ)) ↔
      g = 0 ∨ i = 0) := by
  have whole : (b : ℚ) + (i : ℚ) ≠ 0 := by
    exact_mod_cast Nat.ne_of_gt positive
  have larger : ((b + g : ℕ) : ℚ) + (i : ℚ) ≠ 0 := by
    exact_mod_cast (by omega : b + g + i ≠ 0)
  rw [div_eq_div_iff larger whole]
  push_cast
  constructor
  · intro equal
    have product : (g : ℚ) * (i : ℚ) = 0 := by linarith
    rcases mul_eq_zero.mp product with noGuests | noIdle
    · exact .inl (by exact_mod_cast noGuests)
    · exact .inr (by exact_mod_cast noIdle)
  · rintro (rfl | rfl)
    · push_cast
      ring
    · push_cast
      ring

/-- **When the usage is the share of busy time.** For two snapshots that differ, whose sums
are small enough, it is exactly when the time of guests does not increase, or the idle time
does not. -/
theorem cpu_usage_exact_iff (successive : Successive first second)
    (differ : ∃ state, first.time state ≠ second.time state)
    (small : busySum second + guestSum second < 2 ^ 64) (smallIdle : idleSum second < 2 ^ 64) :
    UsageIsBusyShare first second ↔ guests first second = 0 ∨ idle first second = 0 := by
  obtain ⟨busyLe, guestLe, idleLe⟩ := successive.sums
  have active₁ := toNat_getActiveTime (by omega : busySum first + guestSum first < 2 ^ 64)
  have active₂ := toNat_getActiveTime small
  have idle₁ := toNat_getIdleTime (by omega : idleSum first < 2 ^ 64)
  have idle₂ := toNat_getIdleTime smallIdle
  have activeTime : (getActiveTime second - getActiveTime first).toNat =
      busySum second + guestSum second - (busySum first + guestSum first) := by
    rw [toNat_sub_of_toNat_le (by omega), active₁, active₂]
  have idleTime : (getIdleTime second - getIdleTime first).toNat =
      idleSum second - idleSum first := by
    rw [toNat_sub_of_toNat_le (by omega), idle₁, idle₂]
  have parts : busySum second + guestSum second - (busySum first + guestSum first) =
      busy first second + guests first second := by
    simp only [busy, guests]
    omega
  have time_passes := successive.time_passes differ
  have divisor :
      ((busy first second + guests first second : ℕ) : ℚ) + (idle first second : ℚ) ≠ 0 := by
    exact_mod_cast (by omega : busy first second + guests first second + idle first second ≠ 0)
  have quotient : usage first second =
      some (100 * ((busy first second + guests first second : ℕ) : ℚ) /
        (((busy first second + guests first second : ℕ) : ℚ) + (idle first second : ℚ))) := by
    rw [usage, activeTime, idleTime, parts]
    exact if_neg divisor
  rw [← share_eq_iff time_passes]
  constructor
  · intro exact_share
    exact Option.some.inj (quotient.symm.trans exact_share.usage)
  · intro equal
    exact ⟨activeTime, idleTime, quotient.trans (congrArg some equal)⟩

/-- Counters of a host: all zero, and later some time of each kind, that of guests
included. -/
def atBoot : CPUData := ⟨"tot".toList, #v[0, 0, 0, 0, 0, 0, 0, 0, 0, 0]⟩
def withoutGuests : CPUData := ⟨"tot".toList, #v[50, 0, 0, 50, 0, 0, 0, 0, 0, 0]⟩
def withGuests : CPUData := ⟨"tot".toList, #v[50, 0, 0, 50, 0, 0, 0, 0, 50, 0]⟩

theorem successive_withGuests : Successive atBoot withGuests where
  counters state := by cases state <;> decide
  guest := by decide
  guestNice := by decide
  userOnly := by decide
  niceOnly := by decide

theorem successive_withoutGuests : Successive atBoot withoutGuests where
  counters state := by cases state <;> decide
  guest := by decide
  guestNice := by decide
  userOnly := by decide
  niceOnly := by decide

theorem cpu_usage_exact_without_guests :
    Successive atBoot withoutGuests ∧ (∃ state, atBoot.time state ≠ withoutGuests.time state) ∧
      busySum withoutGuests + guestSum withoutGuests < 2 ^ 64 ∧ idleSum withoutGuests < 2 ^ 64 ∧
        UsageIsBusyShare atBoot withoutGuests :=
  ⟨successive_withoutGuests, ⟨.user, by decide⟩, by decide, by decide,
    (cpu_usage_exact_iff successive_withoutGuests ⟨.user, by decide⟩ (by decide) (by decide)).mpr
      (.inl (by decide))⟩

/-- Half of the time is that of a guest, and it is counted twice. -/
theorem cpu_usage_counts_guests_twice :
    ¬ ∀ first second : CPUData, Successive first second →
      (∃ state, first.time state ≠ second.time state) →
        busySum second + guestSum second < 2 ^ 64 → idleSum second < 2 ^ 64 →
          UsageIsBusyShare first second := by
  intro every
  have differ : ∃ state, atBoot.time state ≠ withGuests.time state := ⟨.user, by decide⟩
  have share := (every atBoot withGuests successive_withGuests differ (by decide) (by decide)).usage
  have active : (getActiveTime withGuests - getActiveTime atBoot).toNat = 100 := by decide
  have idle : (getIdleTime withGuests - getIdleTime atBoot).toNat = 50 := by decide
  have busyTime : busy atBoot withGuests = 50 := by decide
  have idleTime : Linux.idle atBoot withGuests = 50 := by decide
  rw [usage, active, idle, busyTime, idleTime] at share
  norm_num [divide] at share

end Linux

end DslinkSystem
