import DslinkSystem.Info.MacMemory
import DslinkSystem.Library.Tallies

/-!
# Getters of macOS that start commands

On macOS most readings come from a command: a getter passes the command on to
`get_macos_info`, and takes its first line for the text, or makes the text of it.

Neither `get_macos_info` nor `get_free_memory` closes the pipe that it opens. So a getter
leaves open one pipe for each of its commands that could be started, whatever they write.
-/

set_option autoImplicit false

namespace DslinkSystem

open TextScan Tallies

namespace MacOS

/-! ## The getters -/

/-- The unit of the frequency. -/
def mHz : Text := " MHz".toList

/-- `info::cpu::get_frequency()`, for what `popen` gives for `sysctl -n hw.cpufrequency`. -/
def getFrequency (cpufrequency : PopenOutcome) : WithPipes Text := do
  let text ← getMacosInfo cpufrequency
  return decimal ((strtoul (cString text)).value / 1000000).toNat ++ mHz

/-- `info::cpu::get_cpu_cores()`. -/
def getCpuCores (ncpu : PopenOutcome) : WithPipes Text := getMacosInfo ncpu

/-- `info::cpu::get_product_name()`. -/
def getProductName (productName : PopenOutcome) : WithPipes Text := getMacosInfo productName

/-- `info::cpu::get_vendor()`. -/
def getVendor (vendor : PopenOutcome) : WithPipes Text := getMacosInfo vendor

/-- `info::cpu::get_model_name()`. -/
def getModelName (brandString : PopenOutcome) : WithPipes Text := getMacosInfo brandString

/-- `info::system::get_os_full_name()`. -/
def getOsFullName (productName productVersion : PopenOutcome) : WithPipes Text := do
  let name ← getMacosInfo productName
  let version ← getMacosInfo productVersion
  return name ++ version

/-- `info::system::get_memory_usage()`. How the quotient is written is a parameter. -/
def getMemoryUsage (share : UInt64 → UInt64 → Text) (memsize vmStat memsize' : PopenOutcome) :
    WithPipes (Option Text) := do
  let used ← getUsedMemory memsize vmStat
  let total ← getTotalMemory memsize'
  return used.map fun used =>
    share (strtoul (cString used)).value (strtoul (cString total)).value ++ ['%']

/-- `info::system::get_open_files()`. -/
def getOpenFiles (numFiles : PopenOutcome) : WithPipes Text := getMacosInfo numFiles

/-- `info::system::get_process_count()`. -/
def getProcessCount (lineCount : PopenOutcome) : WithPipes Text := getMacosInfo lineCount

/-- `info::cpu::get_cpu_usage()`. -/
def getCpuUsage (percentage : PopenOutcome) : WithPipes Text := getMacosInfo percentage

/-- `info::cpu::get_cpu_temp()`. -/
def getCpuTemp (temperature : PopenOutcome) : WithPipes Text := do
  let text ← getMacosInfo temperature
  return text ++ Linux.degrees

end MacOS

/-! ## The pipes they leave open -/

/-- The pipe of a command, when it could be started. -/
def opened (outcome : PopenOutcome) : ℕ := if outcome.isSome then 1 else 0

namespace MacOS

theorem adds_getMacosInfo (outcome : PopenOutcome) :
    ∃ text, Adds (getMacosInfo outcome) text (opened outcome) := by
  cases outcome with
  | none => exact ⟨_, fun _ => rfl⟩
  | some lines => cases lines <;> exact ⟨_, fun _ => rfl⟩

/-- A getter that makes its text of one command. -/
theorem adds_ofMacosInfo (f : Text → Text) (outcome : PopenOutcome) :
    ∃ text, Adds (do return f (← getMacosInfo outcome)) text (opened outcome) := by
  obtain ⟨text, adds⟩ := adds_getMacosInfo outcome
  exact ⟨f text, adds.andReturn f⟩

theorem adds_getFreeMemoryText (vmStat : PopenOutcome) :
    ∃ text, Adds (getFreeMemoryText vmStat) text (opened vmStat) := by
  cases vmStat with
  | none => exact ⟨_, fun _ => rfl⟩
  | some lines => exact ⟨_, fun _ => rfl⟩

theorem adds_getOsFullName (productName productVersion : PopenOutcome) :
    ∃ text, Adds (getOsFullName productName productVersion) text
      (opened productName + opened productVersion) := by
  obtain ⟨name, first⟩ := adds_getMacosInfo productName
  obtain ⟨version, second⟩ := adds_getMacosInfo productVersion
  exact ⟨name ++ version, first.bind (second.andReturn (name ++ ·))⟩

theorem adds_getUsedMemory (memsize vmStat : PopenOutcome) :
    ∃ text, Adds (getUsedMemory memsize vmStat) text (opened memsize + opened vmStat) := by
  obtain ⟨size, first⟩ := adds_getMacosInfo memsize
  obtain ⟨free, second⟩ := adds_getFreeMemoryText vmStat
  exact ⟨_, first.bind (second.andReturn _)⟩

theorem adds_getMemoryUsage (share : UInt64 → UInt64 → Text)
    (memsize vmStat memsize' : PopenOutcome) :
    ∃ text, Adds (getMemoryUsage share memsize vmStat memsize') text
      (opened memsize + opened vmStat + opened memsize') := by
  obtain ⟨used, first⟩ := adds_getUsedMemory memsize vmStat
  obtain ⟨total, second⟩ := adds_ofMacosInfo
    (fun text => decimal ((strtoul (cString text)).value / 1024 / 1024).toNat ++ mByte) memsize'
  exact ⟨_, first.bind (second.andReturn _)⟩

end MacOS

end DslinkSystem
