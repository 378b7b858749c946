import DslinkSystem.Info.CpuTopology

/-!
# The records that Windows gives of its processors

`cpuinfo_buffer` asks twice: how many bytes the records take, and then for the records
themselves, into a buffer of that many zeroed records. What the second call leaves of the
buffer is given; all of it is passed on, whatever the call returned. Of the call it is assumed
that it writes the records where the buffer has room for them, and nothing behind them
(`WritesRecords`). A zeroed record is one of a core that has no threads.

So a surplus of the buffer is counted as cores (`getCpuQuantities_cpuinfoBuffer`). Where there is
room, the quantities are those of the machine exactly when the two calls agree on the number of
records and no count exceeds its type (`records_counted_iff`).
-/

set_option autoImplicit false

namespace DslinkSystem

open TextScan

namespace Windows

/-- `sizeof(SYSTEM_LOGICAL_PROCESSOR_INFORMATION)`. -/
def sizeofRecord : ℕ := 32

/-- A record of zeros. `RelationProcessorCore` is the relationship with the number 0. -/
def zeroRecord : LogicalProcessorInformation := ⟨.processorCore, 0⟩

/-- What `GetLogicalProcessorInformation` leaves of a buffer. -/
abbrev FillBuffer := List LogicalProcessorInformation → List LogicalProcessorInformation

/-- The call writes the records to a buffer that has room for them, and leaves the rest of it. Of
a buffer without room nothing is known: the call fails, and what it wrote is undefined. -/
structure WritesRecords (getLogicalProcessorInformation : FillBuffer)
    (found : List LogicalProcessorInformation) : Prop where
  writes : ∀ buffer, found.length ≤ buffer.length →
    getLogicalProcessorInformation buffer = found ++ buffer.drop found.length

/-- `cpuinfo_buffer()`, where the first call leaves `byte_count`. -/
def cpuinfoBuffer (getLogicalProcessorInformation : FillBuffer) (byteCount : UInt32) :
    List LogicalProcessorInformation :=
  getLogicalProcessorInformation (List.replicate (byteCount.toNat / sizeofRecord) zeroRecord)

variable {getLogicalProcessorInformation : FillBuffer}
  {byteCount : UInt32} {found : List LogicalProcessorInformation}

/-- There is room for the records exactly when the buffer has as many as there are. -/
theorem fits_iff : found.length * sizeofRecord ≤ byteCount.toNat ↔
    found.length ≤ byteCount.toNat / sizeofRecord :=
  (Nat.le_div_iff_mul_le (by decide)).symm

/-- Zeroed records are counted as cores without threads. -/
theorem foldl_countRecord_replicate (n : ℕ) (count : CpuCount) :
    (List.replicate n zeroRecord).foldl countRecord count =
      { count with physicalCpuCount := count.physicalCpuCount + Int32.ofNat n } := by
  have cores : (List.replicate n zeroRecord).filter (isOf .processorCore) =
      List.replicate n zeroRecord := by
    rw [List.filter_replicate]
    exact if_pos rfl
  have packages : (List.replicate n zeroRecord).filter (isOf .processorPackage) = [] := by
    rw [List.filter_replicate]
    exact if_neg (by decide)
  have noThreads : bitCount zeroRecord.processorMask = 0 := by decide
  rw [foldl_countRecord, cores, packages, List.map_replicate, noThreads, List.sum_replicate]
  simp

/-- The records that are written are counted, and the rest of the buffer as cores. -/
theorem foldl_cpuinfoBuffer (written : WritesRecords getLogicalProcessorInformation found)
    (fits : found.length ≤ byteCount.toNat / sizeofRecord) :
    (cpuinfoBuffer getLogicalProcessorInformation byteCount).foldl countRecord {} =
      { found.foldl countRecord {} with
        physicalCpuCount := (found.foldl countRecord {}).physicalCpuCount +
          Int32.ofNat (byteCount.toNat / sizeofRecord - found.length) } := by
  have room : found.length ≤
      (List.replicate (byteCount.toNat / sizeofRecord) zeroRecord).length := by
    rwa [List.length_replicate]
  rw [cpuinfoBuffer, written.writes _ room, List.foldl_append, List.drop_replicate,
    foldl_countRecord_replicate]

end Windows

namespace CpuTopology

variable {topology : CpuTopology} {records : List Windows.LogicalProcessorInformation}

/-- The quantities are those of the machine. -/
structure Counted (topology : CpuTopology) (quantities : Quantities) : Prop where
  logical : quantities.logical.toNat = topology.packages * topology.cores * topology.threads
  physical : quantities.physical = decimal (topology.packages * topology.cores)
  packages : quantities.packages.toNat = topology.packages

/-- What Windows counts in the records of a machine. -/
theorem foldl_countRecord_records (recorded : topology.Records records) :
    records.foldl Windows.countRecord {} = {
      physicalCpuCount := Int32.ofNat (topology.packages * topology.cores)
      logical := UInt32.ofNat (topology.packages * topology.cores * topology.threads)
      packages := UInt32.ofNat topology.packages } := by
  have threads := List.map_congr_left recorded.threads
  rw [List.map_const', recorded.cores] at threads
  rw [Windows.foldl_countRecord, threads, List.sum_replicate, recorded.cores,
    recorded.packages, Int32.zero_add, UInt32.zero_add, UInt32.zero_add]
  rfl

/-- **What Windows returns for a buffer with room for the records.** -/
theorem getCpuQuantities_cpuinfoBuffer (recorded : topology.Records records)
    {getLogicalProcessorInformation : Windows.FillBuffer}
    (written : Windows.WritesRecords getLogicalProcessorInformation records) {byteCount : UInt32}
    (fits : records.length ≤ byteCount.toNat / Windows.sizeofRecord) :
    Windows.getCpuQuantities (Windows.cpuinfoBuffer getLogicalProcessorInformation byteCount) = {
      logical := UInt32.ofNat (topology.packages * topology.cores * topology.threads)
      physical := signedDecimal (Int32.ofNat (topology.packages * topology.cores +
        (byteCount.toNat / Windows.sizeofRecord - records.length))).toInt
      packages := UInt32.ofNat topology.packages } := by
  rw [Windows.getCpuQuantities, Windows.foldl_cpuinfoBuffer written fits,
    foldl_countRecord_records recorded, Int32.ofNat_add]

/-- A count of cores that is a little more than it should be is not kept. -/
theorem toInt_ofNat_add_eq_iff {n surplus : ℕ} (few : surplus < 2 ^ 32) :
    (Int32.ofNat (n + surplus)).toInt = n ↔ surplus = 0 ∧ n < 2 ^ 31 := by
  constructor
  · intro kept
    have below := (Int32.ofNat (n + surplus)).toInt_lt
    have small : n < 2 ^ 31 := by omega
    refine ⟨?_, small⟩
    rw [Int32.toInt_ofNat'] at kept
    have same : ((n + surplus : ℕ) : ℤ) % (2 ^ 32 : ℕ) = (n : ℤ) % (2 ^ 32 : ℕ) := by
      rw [← kept]
      exact Int.bmod_emod.symm
    omega
  · rintro ⟨rfl, small⟩
    exact toInt_ofNat_eq_iff.mpr small

/-- **When the quantities of Windows are those of the machine**, where the buffer has room for
the records: the first call asked for as many records as the second one finds, and neither the
cores nor the threads are too many for the types that count them. -/
theorem records_counted_iff (recorded : topology.Records records)
    {getLogicalProcessorInformation : Windows.FillBuffer}
    (written : Windows.WritesRecords getLogicalProcessorInformation records) {byteCount : UInt32}
    (fits : records.length * Windows.sizeofRecord ≤ byteCount.toNat) :
    Counted topology (Windows.getCpuQuantities
        (Windows.cpuinfoBuffer getLogicalProcessorInformation byteCount)) ↔
      byteCount.toNat / Windows.sizeofRecord = records.length ∧
        topology.packages * topology.cores < 2 ^ 31 ∧
          topology.packages * topology.cores * topology.threads < 2 ^ 32 := by
  have few : byteCount.toNat / Windows.sizeofRecord < 2 ^ 32 :=
    (Nat.div_le_self _ _).trans_lt byteCount.toNat_lt
  have room := Windows.fits_iff.mp fits
  rw [getCpuQuantities_cpuinfoBuffer recorded written room]
  constructor
  · rintro ⟨logical, physical, -⟩
    obtain ⟨noSurplus, cores⟩ := (toInt_ofNat_add_eq_iff ((Nat.sub_le _ _).trans_lt few)).mp
      (signedDecimal_eq_decimal_iff.mp physical)
    exact ⟨by omega, cores, toNat_ofNat_eq_iff.mp logical⟩
  · rintro ⟨same, cores, threads⟩
    refine ⟨toNat_ofNat_eq_iff.mpr threads, ?_, ?_⟩
    · rw [same, Nat.sub_self]
      exact signedDecimal_eq_decimal_iff.mpr (toInt_ofNat_eq_iff.mpr cores)
    · have bound : topology.packages ≤ topology.packages * topology.cores :=
        Nat.le_mul_of_pos_right _ topology.someCore
      exact toNat_ofNat_eq_iff.mpr (by omega)

/-- A call that writes the records of a machine to a buffer with room, and nothing otherwise. -/
def fillsWith (found : List Windows.LogicalProcessorInformation) : Windows.FillBuffer :=
  fun buffer => if found.length ≤ buffer.length then found ++ buffer.drop found.length else buffer

theorem writesRecords_fillsWith (found : List Windows.LogicalProcessorInformation) :
    Windows.WritesRecords (fillsWith found) found where
  writes _ room := if_pos room

/-- A machine with one package of one core, whose records do not change between the calls. -/
theorem records_counted_single :
    Counted (singleCores 1 (by decide) (by decide))
      (Windows.getCpuQuantities
        (Windows.cpuinfoBuffer (fillsWith (singleCoreRecords 1)) 64)) := by
  have recorded := @records_singleCores 1 (by decide) (by decide)
  have written := writesRecords_fillsWith (singleCoreRecords 1)
  exact (@records_counted_iff _ _ recorded _ written 64 (by decide)).mpr
    ⟨by decide, by decide, by decide⟩

end CpuTopology

end DslinkSystem
