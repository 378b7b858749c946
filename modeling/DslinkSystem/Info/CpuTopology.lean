import DslinkSystem.Info.CpuInfo
import Mathlib.Data.Fintype.Card
import Mathlib.Data.Fintype.Prod

/-!
# The quantities of processors on Linux and Windows

`get_cpu_quantities` reads `/proc/cpuinfo` on Linux and folds over records of the system
on Windows. Given what both see of one machine, the two results are written in terms of its
packages, cores and threads (`linux_quantities`, `windows_quantities`).

The Linux getter takes the number of cores of one package for that of the machine. The two
agree, on the right numbers, exactly when there is one package and no count exceeds its
type (`quantities_agree_iff`).
-/

set_option autoImplicit false

namespace DslinkSystem

open TextScan

/-! ## Windows -/

namespace Windows

/-- `LOGICAL_PROCESSOR_RELATIONSHIP`, as far as the getter tells them apart. -/
inductive Relationship where
  | processorCore
  | processorPackage
  | other
  deriving DecidableEq, Repr

/-- `SYSTEM_LOGICAL_PROCESSOR_INFORMATION`. -/
structure LogicalProcessorInformation where
  relationship : Relationship
  processorMask : UInt64
  deriving DecidableEq, Repr

/-- `std::bitset<64>(mask).count()`. -/
def bitCount (mask : UInt64) : ℕ := (List.range 64).countP mask.toNat.testBit

/-- The variables of the loop: `physical_cpu_count`, `ret.logical` and `ret.packages`. -/
structure CpuCount where
  physicalCpuCount : Int32 := 0
  logical : UInt32 := 0
  packages : UInt32 := 0
  deriving DecidableEq, Repr

/-- One turn of the loop. -/
def countRecord (count : CpuCount) (info : LogicalProcessorInformation) : CpuCount :=
  match info.relationship with
  | .processorCore =>
      { count with
        physicalCpuCount := count.physicalCpuCount + 1
        logical := count.logical + UInt32.ofNat (bitCount info.processorMask) }
  | .processorPackage => { count with packages := count.packages + 1 }
  | .other => count

/-- `info::cpu::get_cpu_quantities()`, for what `cpuinfo_buffer()` returns. -/
def getCpuQuantities (cpuinfoBuffer : List LogicalProcessorInformation) : Quantities :=
  let count := cpuinfoBuffer.foldl countRecord {}
  { logical := count.logical
    physical := signedDecimal count.physicalCpuCount.toInt
    packages := count.packages }

/-- The record is of the given relationship. -/
def isOf (relationship : Relationship) (info : LogicalProcessorInformation) : Bool :=
  info.relationship == relationship

theorem foldl_countRecord (records : List LogicalProcessorInformation) (count : CpuCount) :
    records.foldl countRecord count = {
      physicalCpuCount := count.physicalCpuCount +
        Int32.ofNat (records.filter (isOf .processorCore)).length
      logical := count.logical + UInt32.ofNat
        ((records.filter (isOf .processorCore)).map fun info => bitCount info.processorMask).sum
      packages := count.packages +
        UInt32.ofNat (records.filter (isOf .processorPackage)).length } := by
  induction records generalizing count with
  | nil => simp
  | cons info records ih =>
      rw [List.foldl_cons, ih]
      cases kind : info.relationship with
      | processorCore =>
          have core : isOf .processorCore info = true := by simp [isOf, kind]
          have notPackage : isOf .processorPackage info = false := by simp [isOf, kind]
          simp only [countRecord, kind, List.filter_cons, core, notPackage, if_true,
            Bool.false_eq_true, if_false, List.length_cons, List.map_cons, List.sum_cons,
            UInt32.ofNat_add, Int32.ofNat_add]
          congr 1
          · rw [Int32.add_assoc, Int32.add_comm 1]
            rfl
          · rw [UInt32.add_assoc]
      | processorPackage =>
          have notCore : isOf .processorCore info = false := by simp [isOf, kind]
          have package : isOf .processorPackage info = true := by simp [isOf, kind]
          simp only [countRecord, kind, List.filter_cons, notCore, package, if_true,
            Bool.false_eq_true, if_false, List.length_cons, UInt32.ofNat_add]
          congr 1
          rw [UInt32.add_assoc, UInt32.add_comm 1]
          rfl
      | other =>
          have notCore : isOf .processorCore info = false := by simp [isOf, kind]
          have notPackage : isOf .processorPackage info = false := by simp [isOf, kind]
          simp [countRecord, kind, notCore, notPackage]

end Windows

/-! ## A machine and what is seen of it -/

/-- The packages of a machine, the cores of each, and the hardware threads of each core. -/
structure CpuTopology where
  packages : ℕ
  cores : ℕ
  threads : ℕ
  somePackage : 1 ≤ packages
  someCore : 1 ≤ cores
  someThread : 1 ≤ threads
  /-- The number by which the kernel names a package. -/
  packageId : Fin packages → UInt32
  packageId_injective : Function.Injective packageId

namespace CpuTopology

/-- A logical processor: its package, core and thread. -/
abbrev Processor (topology : CpuTopology) :=
  Fin topology.packages × Fin topology.cores × Fin topology.threads

/-- A line with a key and a number, and something without digits between them. -/
def NumberLine (key : Text) (n : ℕ) (line : Text) : Prop :=
  ∃ padding, (∀ c ∈ padding, c.isDigit = false) ∧ line = key ++ padding ++ decimal n

/-- The block of a logical processor in `/proc/cpuinfo`: one line of each of the three
keys, in any order and with any other lines. -/
structure IsBlock (topology : CpuTopology) (described : topology.Processor) (block : List Text) :
    Prop where
  processor : block.countP (startsWith Linux.processor) = 1
  physicalId : ∃ line, block.filter (startsWith Linux.physicalId) = [line] ∧
    NumberLine Linux.physicalId (topology.packageId described.1).toNat line
  cpuCores : ∃ line, block.filter (startsWith Linux.cpuCores) = [line] ∧
    NumberLine Linux.cpuCores topology.cores line

/-- The lines of `/proc/cpuinfo` are the blocks of the logical processors, in any order. -/
def Lists (topology : CpuTopology) (lines : List Text) : Prop :=
  ∃ (processors : List topology.Processor) (blocks : List (List Text)),
    processors.Nodup ∧ (∀ processor, processor ∈ processors) ∧
      List.Forall₂ topology.IsBlock processors blocks ∧ lines = blocks.flatten

/-- The records of the system: one for each core, with a bit for each of its threads, and
one for each package, in any order and with any others. -/
structure Records (topology : CpuTopology)
    (records : List Windows.LogicalProcessorInformation) : Prop where
  cores : (records.filter (Windows.isOf .processorCore)).length =
    topology.packages * topology.cores
  threads : ∀ info ∈ records.filter (Windows.isOf .processorCore),
    Windows.bitCount info.processorMask = topology.threads
  packages : (records.filter (Windows.isOf .processorPackage)).length = topology.packages

/-- Both getters return the numbers of the machine. -/
structure Agree (topology : CpuTopology) (lines : List Text)
    (records : List Windows.LogicalProcessorInformation) (quantities : Quantities) : Prop where
  linux : Linux.getCpuQuantities (some lines) = some quantities
  windows : Windows.getCpuQuantities records = quantities
  logical : quantities.logical.toNat = topology.packages * topology.cores * topology.threads
  physical : quantities.physical = decimal (topology.packages * topology.cores)
  packages : quantities.packages.toNat = topology.packages

/-! ## What Linux returns -/

/-- The pointer to the first digit is to the number. -/
theorem NumberLine.pointerTo {key line : Text} {n : ℕ} (noDigit : ∀ c ∈ key, c.isDigit = false)
    (numbered : NumberLine key n line) :
    TextScan.pointerTo line (findFirstOf Linux.digits line) = some (decimal n) := by
  obtain ⟨padding, noDigit', rfl⟩ := numbered
  obtain ⟨c, rest, shape⟩ := List.exists_cons_of_ne_nil (decimal_ne_nil n)
  have digit : c.isDigit = true := isDigit_of_mem_decimal (shape ▸ List.mem_cons_self)
  rw [shape]
  refine pointerTo_findFirstOf_append ?_ (Linux.mem_digits_iff.mpr digit)
  intro d member found
  have isDigit := Linux.mem_digits_iff.mp found
  rcases List.mem_append.mp member with inKey | inPadding
  · rw [noDigit d inKey] at isDigit
    cases isDigit
  · rw [noDigit' d inPadding] at isDigit
    cases isDigit

theorem NumberLine.startsWith {key line : Text} {n : ℕ} (numbered : NumberLine key n line) :
    TextScan.startsWith key line = true := by
  obtain ⟨padding, -, rfl⟩ := numbered
  rw [List.append_assoc]
  exact startsWith_append key _

/-- The number in a `physical id` line is the one of the package. -/
theorem NumberLine.packageIdOf {id : UInt32} {line : Text}
    (numbered : NumberLine Linux.physicalId id.toNat line) :
    Linux.packageIdOf line = some id := by
  have small : id.toNat < 2 ^ 64 := Nat.lt_trans id.toNat_lt (by decide)
  have noDigit := isDigit_eq_false_of_mem (by decide : Linux.physicalId.any Char.isDigit = false)
  rw [Linux.packageIdOf, if_pos numbered.startsWith, numbered.pointerTo noDigit,
    Option.map_some, strtoul_decimal_self small]
  simp

/-- The text in a `cpu cores` line is the number of cores. -/
theorem NumberLine.coresOf {cores : ℕ} {line : Text}
    (numbered : NumberLine Linux.cpuCores cores line) :
    Linux.coresOf line = some (decimal cores) := by
  have noDigit := isDigit_eq_false_of_mem (by decide : Linux.cpuCores.any Char.isDigit = false)
  rw [Linux.coresOf, if_pos numbered.startsWith, numbered.pointerTo noDigit, Option.map_some,
    cString_eq_self (not_mem_decimal rfl cores)]

variable {topology : CpuTopology}

/-- There are as many logical processors as packages, cores and threads give. -/
theorem length_processors {processors : List topology.Processor} (distinct : processors.Nodup)
    (complete : ∀ processor, processor ∈ processors) :
    processors.length = topology.packages * topology.cores * topology.threads := by
  have all : processors.toFinset = Finset.univ := by
    ext processor
    simp [complete processor]
  have count := List.toFinset_card_of_nodup distinct
  rw [all, Finset.card_univ] at count
  simpa [Nat.mul_assoc] using count.symm

/-! ### Lines of a block -/

/-- The only line with a key is in the block. -/
theorem mem_of_filter {key line : Text} {block : List Text}
    (only : block.filter (TextScan.startsWith key) = [line]) : line ∈ block := by
  have member : line ∈ block.filter (TextScan.startsWith key) := only ▸ List.mem_singleton_self line
  exact (List.mem_filter.mp member).1

theorem eq_of_filter {key line other : Text} {block : List Text}
    (only : block.filter (TextScan.startsWith key) = [line]) (member : other ∈ block)
    (begins : TextScan.startsWith key other = true) : other = line := by
  have found : other ∈ block.filter (TextScan.startsWith key) :=
    List.mem_filter.mpr ⟨member, begins⟩
  rw [only] at found
  exact List.mem_singleton.mp found

variable {described : topology.Processor} {block : List Text}

theorem IsBlock.exists_packageIdOf (isBlock : topology.IsBlock described block) :
    ∃ line ∈ block, Linux.packageIdOf line = some (topology.packageId described.1) := by
  obtain ⟨line, only, numbered⟩ := isBlock.physicalId
  exact ⟨line, mem_of_filter only, numbered.packageIdOf⟩

theorem IsBlock.packageIdOf (isBlock : topology.IsBlock described block) {line : Text}
    (member : line ∈ block) {id : UInt32} (found : Linux.packageIdOf line = some id) :
    id = topology.packageId described.1 := by
  obtain ⟨other, only, numbered⟩ := isBlock.physicalId
  have begins : TextScan.startsWith Linux.physicalId line = true := by
    by_contra without
    simp [Linux.packageIdOf, without] at found
  rw [eq_of_filter only member begins, numbered.packageIdOf] at found
  exact (Option.some.inj found).symm

theorem IsBlock.exists_coresOf (isBlock : topology.IsBlock described block) :
    ∃ line ∈ block, Linux.coresOf line = some (decimal topology.cores) := by
  obtain ⟨line, only, numbered⟩ := isBlock.cpuCores
  exact ⟨line, mem_of_filter only, numbered.coresOf⟩

theorem IsBlock.coresOf (isBlock : topology.IsBlock described block) {line : Text}
    (member : line ∈ block) {text : Text} (found : Linux.coresOf line = some text) :
    text = decimal topology.cores := by
  obtain ⟨other, only, numbered⟩ := isBlock.cpuCores
  have begins : TextScan.startsWith Linux.cpuCores line = true := by
    by_contra without
    simp [Linux.coresOf, without] at found
  rw [eq_of_filter only member begins, numbered.coresOf] at found
  exact (Option.some.inj found).symm

/-- A line with a number has a digit. -/
theorem NumberLine.any_isDigit {key line : Text} {n : ℕ} (numbered : NumberLine key n line) :
    line.any Char.isDigit = true := by
  obtain ⟨padding, -, rfl⟩ := numbered
  obtain ⟨c, rest, shape⟩ := List.exists_cons_of_ne_nil (decimal_ne_nil n)
  have member : c ∈ decimal n := shape ▸ List.mem_cons_self
  exact List.any_eq_true.mpr ⟨c, List.mem_append_right _ member, isDigit_of_mem_decimal member⟩

theorem IsBlock.readable (isBlock : topology.IsBlock described block) {line : Text}
    (member : line ∈ block) : Linux.readable line = true := by
  obtain ⟨idLine, onlyId, numberedId⟩ := isBlock.physicalId
  obtain ⟨coresLine, onlyCores, numberedCores⟩ := isBlock.cpuCores
  cases isId : TextScan.startsWith Linux.physicalId line with
  | true =>
      have digit := numberedId.any_isDigit
      rw [← eq_of_filter onlyId member isId] at digit
      simp [Linux.readable, digit]
  | false =>
      cases isCores : TextScan.startsWith Linux.cpuCores line with
      | true =>
          have digit := numberedCores.any_isDigit
          rw [← eq_of_filter onlyCores member isCores] at digit
          simp [Linux.readable, digit]
      | false => simp [Linux.readable, isId, isCores]

/-! ### All blocks -/

variable {processors : List topology.Processor} {blocks : List (List Text)}

/-- Every block is the one of a logical processor. -/
theorem exists_processor (blocksOf : List.Forall₂ topology.IsBlock processors blocks)
    {block : List Text} (member : block ∈ blocks) :
    ∃ described, topology.IsBlock described block := by
  induction blocksOf with
  | nil => cases member
  | cons isBlock _ ih =>
      rcases List.mem_cons.mp member with rfl | later
      · exact ⟨_, isBlock⟩
      · exact ih later

/-- Every logical processor has a block. -/
theorem exists_block (blocksOf : List.Forall₂ topology.IsBlock processors blocks)
    {described : topology.Processor} (member : described ∈ processors) :
    ∃ block ∈ blocks, topology.IsBlock described block := by
  induction blocksOf with
  | nil => cases member
  | cons isBlock _ ih =>
      rcases List.mem_cons.mp member with rfl | later
      · exact ⟨_, List.mem_cons_self, isBlock⟩
      · obtain ⟨block, inBlocks, found⟩ := ih later
        exact ⟨block, List.mem_cons_of_mem _ inBlocks, found⟩

/-- Each logical processor has one `processor` line. -/
theorem countP_processor (blocksOf : List.Forall₂ topology.IsBlock processors blocks) :
    blocks.flatten.countP (TextScan.startsWith Linux.processor) = processors.length := by
  induction blocksOf with
  | nil => rfl
  | cons isBlock _ ih =>
      rw [List.flatten_cons, List.countP_append, isBlock.processor, ih, List.length_cons,
        Nat.add_comm]

/-- The package numbers that Linux collects are those of the machine. -/
theorem mem_packageIds (blocksOf : List.Forall₂ topology.IsBlock processors blocks)
    (complete : ∀ processor, processor ∈ processors) (id : UInt32) :
    id ∈ blocks.flatten.filterMap Linux.packageIdOf ↔
      ∃ package, topology.packageId package = id := by
  rw [List.mem_filterMap]
  constructor
  · rintro ⟨line, member, found⟩
    obtain ⟨block, inBlocks, inBlock⟩ := List.mem_flatten.mp member
    obtain ⟨described, isBlock⟩ := exists_processor blocksOf inBlocks
    exact ⟨described.1, (isBlock.packageIdOf inBlock found).symm⟩
  · rintro ⟨package, rfl⟩
    obtain ⟨block, inBlocks, isBlock⟩ := exists_block blocksOf
      (complete (package, ⟨0, topology.someCore⟩, ⟨0, topology.someThread⟩))
    obtain ⟨line, inBlock, found⟩ := isBlock.exists_packageIdOf
    exact ⟨line, List.mem_flatten.mpr ⟨block, inBlocks, inBlock⟩, found⟩

/-- They are as many as there are packages. -/
theorem card_packageIds (blocksOf : List.Forall₂ topology.IsBlock processors blocks)
    (complete : ∀ processor, processor ∈ processors) :
    (blocks.flatten.filterMap Linux.packageIdOf).toFinset.card = topology.packages := by
  have image : (blocks.flatten.filterMap Linux.packageIdOf).toFinset =
      Finset.univ.image topology.packageId := by
    ext id
    rw [List.mem_toFinset, mem_packageIds blocksOf complete, Finset.mem_image]
    simp
  rw [image, Finset.card_image_of_injective _ topology.packageId_injective, Finset.card_univ,
    Fintype.card_fin]

/-- The text that stands last in a `cpu cores` line is the number of cores of one
package. -/
theorem getLast_coresOf (blocksOf : List.Forall₂ topology.IsBlock processors blocks)
    (complete : ∀ processor, processor ∈ processors) :
    (blocks.flatten.filterMap Linux.coresOf).getLast?.getD [] = decimal topology.cores := by
  have each : ∀ text ∈ blocks.flatten.filterMap Linux.coresOf,
      text = decimal topology.cores := by
    intro text member
    obtain ⟨line, inLines, found⟩ := List.mem_filterMap.mp member
    obtain ⟨block, inBlocks, inBlock⟩ := List.mem_flatten.mp inLines
    obtain ⟨described, isBlock⟩ := exists_processor blocksOf inBlocks
    exact isBlock.coresOf inBlock found
  have some_text : decimal topology.cores ∈ blocks.flatten.filterMap Linux.coresOf := by
    obtain ⟨block, inBlocks, isBlock⟩ := exists_block blocksOf
      (complete (⟨0, topology.somePackage⟩, ⟨0, topology.someCore⟩, ⟨0, topology.someThread⟩))
    obtain ⟨line, inBlock, found⟩ := isBlock.exists_coresOf
    exact List.mem_filterMap.mpr ⟨line, List.mem_flatten.mpr ⟨block, inBlocks, inBlock⟩, found⟩
  cases last : (blocks.flatten.filterMap Linux.coresOf).getLast? with
  | none =>
      rw [List.getLast?_eq_none_iff.mp last] at some_text
      cases some_text
  | some text => exact each text (List.mem_of_getLast? last)

/-- **What Linux returns**: the number of cores is the one of a single package. -/
theorem linux_quantities {lines : List Text} (lists : topology.Lists lines) :
    Linux.getCpuQuantities (some lines) = some {
      logical := UInt32.ofNat (topology.packages * topology.cores * topology.threads)
      physical := decimal topology.cores
      packages := UInt32.ofNat topology.packages } := by
  obtain ⟨processors, blocks, distinct, complete, blocksOf, rfl⟩ := lists
  have reads : ∀ line ∈ blocks.flatten, Linux.readable line = true := by
    intro line member
    obtain ⟨block, inBlocks, inBlock⟩ := List.mem_flatten.mp member
    obtain ⟨described, isBlock⟩ := exists_processor blocksOf inBlocks
    exact isBlock.readable inBlock
  rw [Linux.getCpuQuantities_eq reads, countP_processor blocksOf,
    length_processors distinct complete, getLast_coresOf blocksOf complete,
    card_packageIds blocksOf complete]

/-! ## What Windows returns -/

/-- **What Windows returns.** -/
theorem windows_quantities {records : List Windows.LogicalProcessorInformation}
    (recorded : topology.Records records) :
    Windows.getCpuQuantities records = {
      logical := UInt32.ofNat (topology.packages * topology.cores * topology.threads)
      physical := signedDecimal (Int32.ofNat (topology.packages * topology.cores)).toInt
      packages := UInt32.ofNat topology.packages } := by
  have bits : ((records.filter (Windows.isOf .processorCore)).map fun info =>
      Windows.bitCount info.processorMask).sum =
        topology.packages * topology.cores * topology.threads := by
    rw [List.map_congr_left recorded.threads, List.map_const', List.sum_replicate, recorded.cores]
    rfl
  simp [Windows.getCpuQuantities, Windows.foldl_countRecord, bits, recorded.cores,
    recorded.packages]

/-! ## When they agree -/

/-- A count of 32 bits is kept exactly when it is small enough. -/
theorem toNat_ofNat_eq_iff {n : ℕ} : (UInt32.ofNat n).toNat = n ↔ n < 2 ^ 32 := by
  constructor
  · intro kept
    exact kept ▸ (UInt32.ofNat n).toNat_lt
  · exact fun small => UInt32.toNat_ofNat_of_lt' small

theorem toInt_ofNat_eq_iff {n : ℕ} : (Int32.ofNat n).toInt = n ↔ n < 2 ^ 31 := by
  constructor
  · intro kept
    have bound := (Int32.ofNat n).toInt_lt
    omega
  · exact fun small => Int32.toInt_ofNat_of_lt small

/-- **When Linux and Windows agree on the quantities of processors**, and on those of the
machine: there is one package, and neither its cores nor its threads are too many for the
types that count them. -/
theorem quantities_agree_iff {lines : List Text}
    {records : List Windows.LogicalProcessorInformation} (lists : topology.Lists lines)
    (recorded : topology.Records records) :
    (∃ quantities, Agree topology lines records quantities) ↔
      topology.packages = 1 ∧ topology.cores < 2 ^ 31 ∧
        topology.cores * topology.threads < 2 ^ 32 := by
  constructor
  · rintro ⟨quantities, agree⟩
    have linux := Option.some.inj ((linux_quantities lists).symm.trans agree.linux)
    have windows := (windows_quantities recorded).symm.trans agree.windows
    have logical := agree.logical
    have physical := agree.physical
    rw [← linux] at logical physical windows
    have onePackage : topology.packages = 1 := by
      have same : topology.cores = topology.packages * topology.cores := decimal_injective physical
      exact Nat.eq_of_mul_eq_mul_right topology.someCore (by omega)
    have counted := signedDecimal_eq_decimal_iff.mp (congrArg Quantities.physical windows)
    rw [onePackage, Nat.one_mul] at logical counted
    exact ⟨onePackage, toInt_ofNat_eq_iff.mp counted, toNat_ofNat_eq_iff.mp logical⟩
  · rintro ⟨onePackage, cores, threads⟩
    have linux := linux_quantities lists
    have windows := windows_quantities recorded
    rw [onePackage, Nat.one_mul] at linux windows
    refine ⟨_, linux, ?_, ?_, ?_, ?_⟩
    · rw [windows, signedDecimal_eq_decimal_iff.mpr (toInt_ofNat_eq_iff.mpr cores)]
    · rw [onePackage, Nat.one_mul]
      exact toNat_ofNat_eq_iff.mpr threads
    · rw [onePackage, Nat.one_mul]
    · rw [onePackage]
      rfl

/-- A machine with some packages of one core with one thread. -/
def singleCores (packages : ℕ) (some_package : 1 ≤ packages) (few : packages ≤ 2 ^ 32) :
    CpuTopology where
  packages := packages
  cores := 1
  threads := 1
  somePackage := some_package
  someCore := Nat.le_refl 1
  someThread := Nat.le_refl 1
  packageId package := UInt32.ofNat package
  packageId_injective first second same := by
    have numbers := congrArg UInt32.toNat same
    rw [UInt32.toNat_ofNat_of_lt' (Nat.lt_of_lt_of_le first.isLt few),
      UInt32.toNat_ofNat_of_lt' (Nat.lt_of_lt_of_le second.isLt few)] at numbers
    exact Fin.ext numbers

/-- The thread of a package. -/
def threadOf {packages : ℕ} (some_package : 1 ≤ packages) (few : packages ≤ 2 ^ 32)
    (package : Fin packages) : (singleCores packages some_package few).Processor :=
  (package, (⟨0, Nat.one_pos⟩ : Fin 1), (⟨0, Nat.one_pos⟩ : Fin 1))

/-- Lines for one logical processor: its number, that of its package, and one core. -/
def singleCoreBlock (package : ℕ) : List Text :=
  [Linux.processor ++ "\t: ".toList ++ decimal package,
    Linux.physicalId ++ "\t: ".toList ++ decimal package,
    Linux.cpuCores ++ "\t: ".toList ++ decimal 1]

/-- For each package the records of a core with one thread and of the package. -/
def singleCoreRecords (packages : ℕ) : List Windows.LogicalProcessorInformation :=
  List.replicate packages ⟨.processorCore, 1⟩ ++ List.replicate packages ⟨.processorPackage, 1⟩

theorem isBlock_singleCores {packages : ℕ} (some_package : 1 ≤ packages)
    (few : packages ≤ 2 ^ 32) (package : Fin packages) :
    (singleCores packages some_package few).IsBlock (threadOf some_package few package)
      (singleCoreBlock package) := by
  have line : ∀ (key : Text) (n : ℕ), NumberLine key n (key ++ "\t: ".toList ++ decimal n) :=
    fun key n => ⟨"\t: ".toList, isDigit_eq_false_of_mem (by decide), rfl⟩
  have begins : ∀ (key : Text) (n : ℕ),
      TextScan.startsWith key (key ++ "\t: ".toList ++ decimal n) = true :=
    fun key n => (line key n).startsWith
  have other : ∀ {key key' : Text} (n : ℕ),
      TextScan.startsWith key key' = false ∧ TextScan.startsWith key' key = false →
        TextScan.startsWith key' (key ++ "\t: ".toList ++ decimal n) = false :=
    fun {key _} n apart => startsWith_eq_false (begins key n) apart
  constructor
  · rw [singleCoreBlock, List.countP_cons_of_pos (begins _ _),
      List.countP_cons_of_neg (Bool.eq_false_iff.mp (other _ (by decide))),
      List.countP_cons_of_neg (Bool.eq_false_iff.mp (other _ (by decide))), List.countP_nil]
  · refine ⟨Linux.physicalId ++ "\t: ".toList ++ decimal package, ?_, ?_⟩
    · rw [singleCoreBlock, List.filter_cons_of_neg (Bool.eq_false_iff.mp (other _ (by decide))),
        List.filter_cons_of_pos (begins _ _),
        List.filter_cons_of_neg (Bool.eq_false_iff.mp (other _ (by decide))), List.filter_nil]
    · have number : ((singleCores packages some_package few).packageId
          (threadOf some_package few package).1).toNat = package :=
        UInt32.toNat_ofNat_of_lt' (Nat.lt_of_lt_of_le package.isLt few)
      rw [number]
      exact line _ _
  · refine ⟨Linux.cpuCores ++ "\t: ".toList ++ decimal 1, ?_, line _ _⟩
    rw [singleCoreBlock, List.filter_cons_of_neg (Bool.eq_false_iff.mp (other _ (by decide))),
      List.filter_cons_of_neg (Bool.eq_false_iff.mp (other _ (by decide))),
      List.filter_cons_of_pos (begins _ _), List.filter_nil]

theorem lists_singleCores {packages : ℕ} (some_package : 1 ≤ packages)
    (few : packages ≤ 2 ^ 32) :
    (singleCores packages some_package few).Lists
      ((List.finRange packages).flatMap fun package : Fin packages => singleCoreBlock package) := by
  refine ⟨(List.finRange packages).map (threadOf some_package few),
    (List.finRange packages).map fun package : Fin packages => singleCoreBlock package,
    ?_, ?_, ?_, List.flatMap_def⟩
  · exact (List.nodup_finRange packages).map fun first second same => (Prod.mk.inj same).1
  · rintro ⟨package, core, thread⟩
    refine List.mem_map.mpr ⟨package, List.mem_finRange package, ?_⟩
    have oneCore : core = (⟨0, Nat.one_pos⟩ : Fin 1) := Fin.ext (Nat.lt_one_iff.mp core.isLt)
    have oneThread : thread = (⟨0, Nat.one_pos⟩ : Fin 1) :=
      Fin.ext (Nat.lt_one_iff.mp thread.isLt)
    rw [oneCore, oneThread]
    rfl
  · rw [List.forall₂_map_left_iff, List.forall₂_map_right_iff, List.forall₂_same]
    exact fun package _ => isBlock_singleCores some_package few package

theorem records_singleCores {packages : ℕ} (some_package : 1 ≤ packages)
    (few : packages ≤ 2 ^ 32) :
    (singleCores packages some_package few).Records (singleCoreRecords packages) := by
  have cores : (singleCoreRecords packages).filter (Windows.isOf .processorCore) =
      List.replicate packages ⟨.processorCore, 1⟩ := by
    simp [singleCoreRecords, Windows.isOf]
  refine ⟨?_, ?_, ?_⟩
  · rw [cores, List.length_replicate]
    exact (Nat.mul_one packages).symm
  · intro info member
    rw [cores] at member
    rw [List.eq_of_mem_replicate member]
    change Windows.bitCount 1 = 1
    decide
  · simp [singleCoreRecords, Windows.isOf, singleCores]

theorem quantities_agree_single :
    ∃ lines records, (singleCores 1 (by decide) (by decide)).Lists lines ∧
      (singleCores 1 (by decide) (by decide)).Records records ∧
        ∃ quantities, Agree (singleCores 1 (by decide) (by decide)) lines records quantities :=
  ⟨_, _, lists_singleCores (by decide) (by decide), records_singleCores (by decide) (by decide),
    (quantities_agree_iff (lists_singleCores (by decide) (by decide))
      (records_singleCores (by decide) (by decide))).mpr ⟨rfl, by decide, by decide⟩⟩

/-- With two packages of one core each, Linux returns one physical core. -/
theorem quantities_disagree :
    ¬ ∀ (topology : CpuTopology) (lines : List Text)
      (records : List Windows.LogicalProcessorInformation),
      topology.Lists lines → topology.Records records →
        ∃ quantities, Agree topology lines records quantities := by
  intro every
  have two : 1 ≤ 2 := by decide
  have few : 2 ≤ 2 ^ 32 := by decide
  have lists := lists_singleCores two few
  obtain ⟨quantities, agree⟩ := every _ _ _ lists (records_singleCores two few)
  have linux := Option.some.inj ((linux_quantities lists).symm.trans agree.linux)
  have physical := agree.physical
  rw [← linux] at physical
  have same : (singleCores 2 two few).cores = 2 * (singleCores 2 two few).cores :=
    decimal_injective physical
  cases same

end CpuTopology

end DslinkSystem
