import DslinkSystem.Info.CpuUsage
import DslinkSystem.Info.MemInfo
import DslinkSystem.Info.Release
import DslinkSystem.Polling.PollView

/-!
# The stat loop with the getters it calls

On Linux the getters of some stat nodes read `/proc/cpuinfo`, `/proc/stat`,
`/proc/meminfo` and `/etc/lsb-release`, and not every content of the files gives them a
result. A getter without a result leaves the loop over `nodes` with an exception.

A tick refreshes each subscribed node once and returns true exactly when a node is
subscribed, and each subscribed node finds what it looks for in its file
(`tick_refreshes_iff`).
-/

set_option autoImplicit false

namespace DslinkSystem

open EventRuns TextScan

/-! ## The getters on Linux -/

/-- What the files hold when a tick reads them. The processor counters are read twice. -/
structure SystemFiles where
  cpuinfo : FileContent
  stat1 : FileContent
  stat2 : FileContent
  meminfo : FileContent
  release : FileContent

/-- What the files do not determine: the texts from elsewhere, how a percentage, or what is written
for none, and a share are written, and what the variables of `get_memory_info` held before. -/
structure Elsewhere where
  text : StatKey → Text
  percentage : Option ℚ → Text
  share : UInt64 → UInt64 → Text
  held : Linux.MemoryWords

/-- What the getter of a stat node returns. -/
def linuxGetter (files : SystemFiles) (elsewhere : Elsewhere) : StatKey → Option Text
  | .cpuFrequency => Linux.getFrequency files.cpuinfo
  | .cpuUsage => (Linux.getCpuUsage files.stat1 files.stat2).map fun usage =>
      elsewhere.percentage usage ++ "%".toList
  | .freeMemory => (Linux.getMemoryInfoFrom elsewhere.held files.meminfo).map (·.physicalFree)
  | .memoryUsage => Linux.getMemoryUsageFrom elsewhere.share elsewhere.held files.meminfo
  | .modelName => Linux.getModelName files.cpuinfo
  | .operatingSystem => Linux.getOsFullName files.release
  | .processorCount => Linux.getCpuCores files.cpuinfo
  | .totalMemory => (Linux.getMemoryInfoFrom elsewhere.held files.meminfo).map (·.physicalTotal)
  | .usedMemory => (Linux.getMemoryInfoFrom elsewhere.held files.meminfo).map (·.physicalUsed)
  | .vendor => Linux.getVendor files.cpuinfo
  | .architecture => some (elsewhere.text .architecture)
  | .diskUsage => some (elsewhere.text .diskUsage)
  | .freeDiskSpace => some (elsewhere.text .freeDiskSpace)
  | .hardwareModel => some (elsewhere.text .hardwareModel)
  | .hostname => some (elsewhere.text .hostname)
  | .openFiles => some (elsewhere.text .openFiles)
  | .platform => some (elsewhere.text .platform)
  | .processCount => some (elsewhere.text .processCount)
  | .processorTemp => some (elsewhere.text .processorTemp)
  | .systemTime => some (elsewhere.text .systemTime)
  | .totalDiskSpace => some (elsewhere.text .totalDiskSpace)
  | .usedDiskSpace => some (elsewhere.text .usedDiskSpace)

/-- What a stat node is given for its value, if its getter returns. -/
def linuxRead (files : SystemFiles) (elsewhere : Elsewhere) (key : StatNode .linux) :
    Option String := (linuxGetter files elsewhere key.1).map String.ofList

namespace PollSide

variable {target : Platform} {side : PollSide target} {read : StatNode target → Option String}

/-! ## A tick refreshes every subscribed node -/

/-- The callback returns true, having called `set_value` once on each subscribed node and on no
other. -/
def RefreshesAll (side : PollSide target) (read : StatNode target → Option String) : Prop :=
  ∃ done, side.statCallback read = .returned done ∧ done.anySubs = true ∧
    ∀ key, done.sets.count key = if side.subscribed key then 1 else 0

theorem count_filter_all (side : PollSide target) (key : StatNode target) :
    ((StatNode.all target).filter side.subscribed).count key =
      if side.subscribed key then 1 else 0 := by
  cases on : side.subscribed key with
  | true =>
      rw [List.count_filter on,
        List.count_eq_one_of_mem (StatNode.nodup_all target) (StatNode.mem_all key)]
      rfl
  | false =>
      refine List.count_eq_zero_of_not_mem fun member => ?_
      rw [(List.mem_filter.mp member).2] at on
      cases on

/-- A tick refreshes every subscribed node exactly when there is one and none is blocked. -/
theorem refreshesAll_iff_clear (dynamic : side.AllDynamic) :
    side.RefreshesAll read ↔
      (∃ key, side.subscribed key = true) ∧ ∀ key, side.blocked read key = false := by
  constructor
  · rintro ⟨done, ran, any, -⟩
    obtain ⟨keys, done', looped, ⟨rfl, clear, ran'⟩ | ⟨first, after, -, -, left⟩⟩ :=
      statCallback_cases dynamic read
    · obtain rfl := Handled.returned.inj (ran.symm.trans ran')
      rw [looped.anySubs] at any
      exact ⟨StatNode.any_all_iff.mp any, clear⟩
    · rw [left] at ran
      cases ran
  · rintro ⟨subscribes, clear⟩
    obtain ⟨done, ran, looped⟩ := statCallback_of_clear dynamic clear
    refine ⟨done, ran, ?_, fun other => ?_⟩
    · rw [looped.anySubs]
      exact StatNode.any_all_iff.mpr subscribes
    · rw [looped.sets, count_filter_all]

end PollSide

/-! ## What the files must hold -/

/-- The file has a line that begins with the key. -/
def HasLine (key : Text) (file : FileContent) : Prop :=
  ∃ lines, file = some lines ∧ ∃ line ∈ lines, startsWith key line = true

/-- Every line of the file passes the test. -/
def AllLines (test : Text → Bool) (file : FileContent) : Prop :=
  ∀ lines, file = some lines → ∀ line ∈ lines, test line = true

/-- What the getter of a stat node needs of its file: the line for the frequency, a file for a
value, a line for the processors in both readings, a digit in each line with a number, and a
release that is read within its line. -/
def Readable (files : SystemFiles) : StatKey → Prop
  | .cpuFrequency => HasLine Linux.cpuMHz files.cpuinfo
  | .cpuUsage => HasLine "cpu".toList files.stat1 ∧ HasLine "cpu".toList files.stat2
  | .modelName | .vendor => files.cpuinfo ≠ none
  | .operatingSystem => AllLines Linux.releaseReadable files.release
  | .processorCount => AllLines Linux.readable files.cpuinfo
  | _ => True

theorem hasLine_iff {key : Text} {file : FileContent} :
    HasLine key file ↔
      ¬ ∀ lines, file = some lines → ∀ line ∈ lines, startsWith key line = false := by
  simp [HasLine]

theorem allLines_iff {test : Text → Bool} {file : FileContent} :
    AllLines test file ↔ ¬ ∃ lines, file = some lines ∧ ∃ line ∈ lines, test line = false := by
  simp [AllLines]

/-- A getter has a result exactly when its file holds what it needs. -/
theorem linuxRead_ne_none_iff {files : SystemFiles} {elsewhere : Elsewhere}
    {key : StatNode .linux} : linuxRead files elsewhere key ≠ none ↔ Readable files key.1 := by
  rw [linuxRead, ne_eq, Option.map_eq_none_iff]
  cases key.1 with
  | cpuFrequency => exact (not_congr Linux.getFrequency_eq_none_iff).trans hasLine_iff.symm
  | cpuUsage =>
      simp only [linuxGetter, Readable, Option.map_eq_none_iff, Linux.getCpuUsage_eq_none_iff,
        Linux.readStatsCPU_eq_nil_iff, hasLine_iff, not_or]
  | modelName => exact not_congr Linux.cpuinfoValue_eq_none_iff
  | vendor => exact not_congr Linux.cpuinfoValue_eq_none_iff
  | operatingSystem => exact (not_congr Linux.getOsFullName_eq_none_iff).trans allLines_iff.symm
  | processorCount =>
      simp only [linuxGetter, Readable, Linux.getCpuCores, Option.map_eq_none_iff,
        Linux.getCpuQuantities_eq_none_iff, allLines_iff]
  | freeMemory | totalMemory | usedMemory =>
      simp [linuxGetter, Readable, Linux.getMemoryInfoFrom_ne_none elsewhere.held files.meminfo]
  | memoryUsage =>
      simp [linuxGetter, Readable,
        Linux.getMemoryUsageFrom_ne_none elsewhere.share elsewhere.held files.meminfo]
  | _ => simp [linuxGetter, Readable]

namespace PollSide

/-- **When a tick refreshes every subscribed node.** For every set of subscribed stat nodes and
every content of the files it is exactly when a node is subscribed, and the file of each
subscribed node holds what its getter needs. -/
theorem tick_refreshes_iff (files : SystemFiles) (elsewhere : Elsewhere) {side : PollSide .linux}
    (dynamic : side.AllDynamic) :
    side.RefreshesAll (linuxRead files elsewhere) ↔
      (∃ key, side.subscribed key = true) ∧
        ∀ key, side.subscribed key = true → Readable files key.1 := by
  rw [refreshesAll_iff_clear dynamic]
  refine and_congr_right fun _ => forall_congr' fun key => ?_
  have reads : linuxRead files elsewhere key ≠ none ↔ Readable files key.1 :=
    linuxRead_ne_none_iff
  rw [← reads, blocked]
  cases side.subscribed key with
  | false => simp
  | true => simp [Option.isSome_iff_ne_none]

/-- No file, and empty texts from elsewhere. -/
def noFiles : SystemFiles := ⟨none, none, none, none, none⟩
def blankElsewhere : Elsewhere := ⟨fun _ => [], fun _ => [], fun _ _ => [], ⟨0, 0, 0, 0⟩⟩

theorem tick_refreshes_frequency :
    ∃ side, run pollMachine (new .linux) [.subscribe frequencyNode] = some side ∧
      side.AllDynamic ∧ side.RefreshesAll
        (linuxRead { noFiles with cpuinfo := some ["cpu MHz\t\t: 2400.000".toList] }
          blankElsewhere) := by
  have dynamic := (pollInvariant_run
    (rfl : run pollMachine (new .linux) [.subscribe frequencyNode] = some _)).dynamic
  refine ⟨_, rfl, dynamic, (tick_refreshes_iff _ _ dynamic).mpr ⟨⟨frequencyNode, rfl⟩, ?_⟩⟩
  rintro ⟨key, built⟩ on
  cases key with
  | cpuFrequency => exact ⟨_, rfl, _, List.mem_singleton_self _, by decide⟩
  | _ => cases on

/-- Without a line for the frequency a subscription to it ends the tick. -/
theorem tick_starves_hostname :
    ¬ ∀ (events : List (PollEvent .linux)) (side : PollSide .linux),
      run pollMachine (new .linux) events = some side →
        (∃ key, side.subscribed key = true) → ∀ files elsewhere,
          side.RefreshesAll (linuxRead files elsewhere) := by
  intro every
  have reached : ∃ side,
      run pollMachine (new .linux) [.subscribe frequencyNode, .subscribe hostnameNode] = some side ∧
        side.subscribed frequencyNode = true := ⟨_, rfl, rfl⟩
  obtain ⟨side, reached, on⟩ := reached
  have refreshes := every _ side reached ⟨frequencyNode, on⟩
    { noFiles with cpuinfo := some ["processor\t: 0".toList] } blankElsewhere
  have dynamic := (pollInvariant_run reached).dynamic
  have clear := ((refreshesAll_iff_clear dynamic).mp refreshes).2 frequencyNode
  have unread : linuxRead { noFiles with cpuinfo := some ["processor\t: 0".toList] } blankElsewhere
      frequencyNode = none := by decide
  rw [blocked, on, unread] at clear
  cases clear

end PollSide

end DslinkSystem
