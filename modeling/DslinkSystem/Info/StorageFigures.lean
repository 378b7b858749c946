import DslinkSystem.Info.MemInfo

/-!
# The figures of the disk, and of the memory of Windows

`get_diskspace_info` is the same on the three platforms, and `get_memory_info` of Windows
computes its figures alike: what is used is what is not available, in unsigned arithmetic,
and each figure is cut to megabytes on its own. How the percentage, a floating-point number,
is written is left open.

What is used and what is available add up to the total, but for the megabyte lost by cutting,
exactly when no more is available than there is (`figures_add_up_iff`).
-/

set_option autoImplicit false

namespace DslinkSystem

open TextScan

/-- The figures of `diskspace_t` and `memory_t`, without the percentage. -/
structure StorageFigures where
  used : Text := []
  available : Text := []
  free : Text := []
  total : Text := []
  deriving DecidableEq, Repr

namespace StorageFigures

/-- `std::to_string(value / 1024 / 1024) + unit`. -/
def figure (unit : Text) (value : UInt64) : Text := decimal (value / 1024 / 1024).toNat ++ unit

/-- The figures for what is available and free of a total. -/
def of (unit : Text) (total available free : UInt64) : StorageFigures where
  used := figure unit (total - available)
  available := figure unit available
  free := figure unit free
  total := figure unit total

end StorageFigures

/-- `boost::filesystem::space_info`. -/
structure SpaceInfo where
  capacity : UInt64
  free : UInt64
  available : UInt64
  deriving DecidableEq, Repr

def diskUnit : Text := " MB".toList
def memoryUnit : Text := " mb".toList

/-- `info::system::get_diskspace_info()`, for what `boost::filesystem::space(".")` returns. -/
def Linux.getDiskspaceInfo (space : SpaceInfo) : StorageFigures :=
  .of diskUnit space.capacity space.available space.free

/-- `info::system::get_diskspace_info()` in `info_mac.cc`. -/
def MacOS.getDiskspaceInfo (space : SpaceInfo) : StorageFigures :=
  .of diskUnit space.capacity space.available space.free

/-- `info::system::get_diskspace_info()` in `info_win.cc`. -/
def Windows.getDiskspaceInfo (space : SpaceInfo) : StorageFigures :=
  .of diskUnit space.capacity space.available space.free

/-- `MEMORYSTATUSEX`, as far as it is read. -/
structure Windows.MemoryStatus where
  ullTotalPhys : UInt64
  ullAvailPhys : UInt64
  deriving DecidableEq, Repr

/-- `info::system::get_memory_info()` in `info_win.cc`, for what `GlobalMemoryStatusEx` gives
unless it fails. What is free is what is available. -/
def Windows.getMemoryInfo (status : Option Windows.MemoryStatus) : StorageFigures :=
  match status with
  | none => {}
  | some mem => .of memoryUnit mem.ullTotalPhys mem.ullAvailPhys mem.ullAvailPhys

namespace StorageFigures

/-- What is used and what is available are the total, but for one megabyte. -/
def AddUp (unit : Text) (figures : StorageFigures) : Prop :=
  ∃ used available total : ℕ, figures.used = decimal used ++ unit ∧
    figures.available = decimal available ++ unit ∧ figures.total = decimal total ++ unit ∧
      used + available ≤ total ∧ total ≤ used + available + 1

theorem figure_eq_iff {unit : Text} {value : UInt64} {n : ℕ} :
    figure unit value = decimal n ++ unit ↔ value.toNat / 2 ^ 20 = n := by
  have cut : (value / 1024 / 1024).toNat = value.toNat / 2 ^ 20 := by
    rw [UInt64.toNat_div, UInt64.toNat_div]
    have kilo : (1024 : UInt64).toNat = 1024 := rfl
    rw [kilo]
    omega
  rw [figure, List.append_left_inj, cut]
  exact ⟨decimal_injective, congrArg decimal⟩

/-- **When the figures add up.** -/
theorem figures_add_up_iff (unit : Text) (total available free : UInt64) :
    AddUp unit (of unit total available free) ↔ available ≤ total := by
  have totalBound := total.toNat_lt
  have availableBound := available.toNat_lt
  simp only [AddUp, of, figure_eq_iff]
  rw [UInt64.le_iff_toNat_le]
  constructor
  · rintro ⟨used, left, whole, isUsed, rfl, rfl, low, high⟩
    rw [UInt64.toNat_sub] at isUsed
    omega
  · intro within
    have usedBytes : (total - available).toNat = total.toNat - available.toNat :=
      UInt64.toNat_sub_of_le _ _ (UInt64.le_iff_toNat_le.mpr within)
    refine ⟨_, _, _, rfl, rfl, rfl, ?_⟩
    rw [usedBytes]
    omega

end StorageFigures

end DslinkSystem
