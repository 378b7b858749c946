import DslinkSystem.Info.Release
import DslinkSystem.Info.ReleaseChain
import DslinkSystem.Library.Thresholds
import Mathlib.Data.Prod.Lex

/-!
# The version of Windows

`get_kernel_info` takes the numbers of the version out of the word that `GetVersion` returns.
`get_OS_info` passes them on and names the release: it asks for one release after another
whether the version is at least that. The word and the answers are given; of them it is assumed
what the functions are documented to return for the version of the host (`Documented`).

The major and minor number are those of the version, and so is the number of the build where the
sign bit of the word is clear, or the number is zero. The name is that of the greatest release that
the version reaches (`osInfo_describes_iff`), and a later version never has the name of an earlier
release (`fullName_mono`).
-/

set_option autoImplicit false

namespace DslinkSystem

open TextScan Thresholds

namespace Windows

/-- The version of a host. -/
structure HostVersion where
  major : UInt8
  minor : UInt8
  servicePack : UInt16
  build : UInt16
  deriving DecidableEq, Repr

/-- `LOWORD`. -/
def loword (l : UInt32) : UInt16 := l.toUInt16

/-- `HIWORD`. -/
def hiword (l : UInt32) : UInt16 := (l >>> 16).toUInt16

/-- `LOBYTE`. -/
def lobyte (w : UInt16) : UInt8 := w.toUInt8

/-- `HIBYTE`. -/
def hibyte (w : UInt16) : UInt8 := (w >>> 8).toUInt8

def windows10 : Text := "Windows 10".toList
def windows8Point1 : Text := "Windows 8.1".toList
def windows8 : Text := "Windows 8".toList
def windows7SP1 : Text := "Windows 7 SP1".toList
def windows7 : Text := "Windows 7".toList
def windowsVistaSP2 : Text := "Windows Vista SP2".toList
def windowsVistaSP1 : Text := "Windows Vista SP1".toList
def windowsVista : Text := "Windows Vista".toList
def windowsXPSP3 : Text := "Windows XP SP3".toList
def windowsXPSP2 : Text := "Windows XP SP2".toList
def windowsXPSP1 : Text := "Windows XP SP1".toList
def windowsXP : Text := "Windows XP".toList
def windowsNT : Text := "Windows NT".toList
def kernelNT : Text := "windows_nt".toList

/-- The releases that `get_OS_info` asks for. -/
inductive WindowsRelease where
  | windows10
  | windows8Point1
  | windows8
  | windows7SP1
  | windows7
  | windowsVistaSP2
  | windowsVistaSP1
  | windowsVista
  | windowsXPSP3
  | windowsXPSP2
  | windowsXPSP1
  | windowsXP
  deriving DecidableEq, Repr

/-- What the functions of the host return: `GetVersion()`, and for each release the function of
`VersionHelpers.h` that asks for it, such as `IsWindows10OrGreater()`. -/
structure VersionFunctions where
  getVersion : UInt32
  isOrGreater : WindowsRelease → Bool

/-- `info::system::get_kernel_info()`. -/
def getKernelInfo (functions : VersionFunctions) : KernelInfo :=
  let dwVersion := functions.getVersion
  let dwMajorVersion := (lobyte (loword dwVersion)).toUInt32
  let dwMinorVersion := (hibyte (loword dwVersion)).toUInt32
  let dwBuild := if dwVersion < 0x80000000 then (hiword dwVersion).toUInt32 else 0
  { variant := kernelNT
    major := dwMajorVersion.toUInt64
    minor := dwMinorVersion.toUInt64
    patch := 0
    buildNumber := dwBuild.toUInt64 }

/-- `info::system::get_kernel_variant()`. -/
def getKernelVariant (functions : VersionFunctions) : Text := (getKernelInfo functions).variant

/-- The name that `get_OS_info` gives to the version. -/
def releaseName (isOrGreater : WindowsRelease → Bool) : Text :=
  if isOrGreater .windows10 then windows10
  else if isOrGreater .windows8Point1 then windows8Point1
  else if isOrGreater .windows8 then windows8
  else if isOrGreater .windows7SP1 then windows7SP1
  else if isOrGreater .windows7 then windows7
  else if isOrGreater .windowsVistaSP2 then windowsVistaSP2
  else if isOrGreater .windowsVistaSP1 then windowsVistaSP1
  else if isOrGreater .windowsVista then windowsVista
  else if isOrGreater .windowsXPSP3 then windowsXPSP3
  else if isOrGreater .windowsXPSP2 then windowsXPSP2
  else if isOrGreater .windowsXPSP1 then windowsXPSP1
  else if isOrGreater .windowsXP then windowsXP
  else []

/-- `info::system::get_OS_info()`. -/
def getOSInfo (functions : VersionFunctions) : Linux.OSInfo :=
  let kernelVersion := getKernelInfo functions
  { name := windowsNT
    fullName := releaseName functions.isOrGreater
    major := kernelVersion.major
    minor := kernelVersion.minor
    patch := kernelVersion.patch
    buildNumber := kernelVersion.buildNumber }

/-- `info::system::get_os_full_name()`. -/
def getOsFullName (functions : VersionFunctions) : Text := (getOSInfo functions).fullName

/-! ## What the functions return -/

/-- The numbers by which versions are ordered. -/
abbrev VersionKey := ℕ ×ₗ ℕ ×ₗ ℕ

def versionKey (major minor servicePack : ℕ) : VersionKey :=
  toLex (major, toLex (minor, servicePack))

def HostVersion.key (host : HostVersion) : VersionKey :=
  versionKey host.major.toNat host.minor.toNat host.servicePack.toNat

namespace WindowsRelease

/-- The version of a release. -/
def key : WindowsRelease → VersionKey
  | windows10 => versionKey 10 0 0
  | windows8Point1 => versionKey 6 3 0
  | windows8 => versionKey 6 2 0
  | windows7SP1 => versionKey 6 1 1
  | windows7 => versionKey 6 1 0
  | windowsVistaSP2 => versionKey 6 0 2
  | windowsVistaSP1 => versionKey 6 0 1
  | windowsVista => versionKey 6 0 0
  | windowsXPSP3 => versionKey 5 1 3
  | windowsXPSP2 => versionKey 5 1 2
  | windowsXPSP1 => versionKey 5 1 1
  | windowsXP => versionKey 5 1 0

/-- The text that names the release. -/
def name : WindowsRelease → Text
  | windows10 => Windows.windows10
  | windows8Point1 => Windows.windows8Point1
  | windows8 => Windows.windows8
  | windows7SP1 => Windows.windows7SP1
  | windows7 => Windows.windows7
  | windowsVistaSP2 => Windows.windowsVistaSP2
  | windowsVistaSP1 => Windows.windowsVistaSP1
  | windowsVista => Windows.windowsVista
  | windowsXPSP3 => Windows.windowsXPSP3
  | windowsXPSP2 => Windows.windowsXPSP2
  | windowsXPSP1 => Windows.windowsXPSP1
  | windowsXP => Windows.windowsXP

end WindowsRelease

/-- What the functions are documented to return on a host: the numbers of its version are in the
low word, that of the build is in the high word when the sign bit is clear, and a release is
reached when the version is no less than its own. -/
structure Documented (functions : VersionFunctions) (host : HostVersion) : Prop where
  major : lobyte (loword functions.getVersion) = host.major
  minor : hibyte (loword functions.getVersion) = host.minor
  build : functions.getVersion < 0x80000000 → hiword functions.getVersion = host.build
  isOrGreater : ∀ release, functions.isOrGreater release = decide (release.key ≤ host.key)

/-! ## The numbers -/

variable {functions : VersionFunctions} {host : HostVersion}

theorem major_getKernelInfo (documented : Documented functions host) :
    (getKernelInfo functions).major = host.major.toUInt64 := by
  change (lobyte (loword functions.getVersion)).toUInt32.toUInt64 = _
  rw [documented.major]
  rfl

theorem minor_getKernelInfo (documented : Documented functions host) :
    (getKernelInfo functions).minor = host.minor.toUInt64 := by
  change (hibyte (loword functions.getVersion)).toUInt32.toUInt64 = _
  rw [documented.minor]
  rfl

theorem buildNumber_getKernelInfo (documented : Documented functions host) :
    (getKernelInfo functions).buildNumber =
      if functions.getVersion < 0x80000000 then host.build.toUInt64 else 0 := by
  change (if functions.getVersion < 0x80000000 then (hiword functions.getVersion).toUInt32
    else 0).toUInt64 = _
  split
  · rename_i clear
    rw [documented.build clear]
    rfl
  · rfl

/-! ## The name -/

/-- The releases, the latest first. -/
def releases : List WindowsRelease :=
  [.windows10, .windows8Point1, .windows8, .windows7SP1, .windows7, .windowsVistaSP2,
    .windowsVistaSP1, .windowsVista, .windowsXPSP3, .windowsXPSP2, .windowsXPSP1, .windowsXP]

theorem mem_releases (release : WindowsRelease) : release ∈ releases := by
  cases release <;> decide

theorem descending_releases : Descending WindowsRelease.key releases := by
  unfold Descending
  decide

/-- The name of the first of some releases that a version reaches. -/
def nameReached (releases : List WindowsRelease) (key : VersionKey) : Text :=
  ((reached WindowsRelease.key releases key).map WindowsRelease.name).getD []

theorem nameReached_nil (key : VersionKey) : nameReached [] key = [] := rfl

theorem nameReached_cons (first : WindowsRelease) (releases : List WindowsRelease)
    (key : VersionKey) :
    nameReached (first :: releases) key =
      if decide (first.key ≤ key) then first.name else nameReached releases key := by
  by_cases reaches : first.key ≤ key
  · simp [nameReached, reached, reaches]
  · simp [nameReached, reached, reaches]

/-- The questions are asked in the order of the releases. -/
theorem releaseName_eq (documented : Documented functions host) :
    releaseName functions.isOrGreater = nameReached releases host.key := by
  simp only [releases, nameReached_cons, nameReached_nil, releaseName, documented.isOrGreater]
  rfl

/-- Different releases have different names. -/
theorem nodup_names : (releases.map WindowsRelease.name).Nodup := by decide

theorem name_ne_nil (release : WindowsRelease) : release.name ≠ [] := by
  cases release <;> decide

/-- The name tells the release. -/
theorem fullName_eq_iff (documented : Documented functions host) (release : WindowsRelease) :
    (getOSInfo functions).fullName = release.name ↔
      reached WindowsRelease.key releases host.key = some release := by
  have name : (getOSInfo functions).fullName = nameReached releases host.key :=
    releaseName_eq documented
  rw [name, nameReached]
  cases found : reached WindowsRelease.key releases host.key with
  | none => exact iff_of_false (name_ne_nil release).symm (by simp)
  | some other =>
      rw [Option.map_some, Option.getD_some, Option.some.injEq]
      exact ⟨List.inj_on_of_nodup_map nodup_names (mem_releases other) (mem_releases release),
        congrArg WindowsRelease.name⟩

/-- A later version does not have the name of an earlier release. -/
theorem fullName_mono {functions' : VersionFunctions} {host' : HostVersion}
    (documented : Documented functions host) (documented' : Documented functions' host')
    (later : host.key ≤ host'.key) {release release' : WindowsRelease}
    (named : (getOSInfo functions).fullName = release.name)
    (named' : (getOSInfo functions').fullName = release'.name) : release.key ≤ release'.key :=
  reached_mono descending_releases later ((fullName_eq_iff documented release).mp named)
    ((fullName_eq_iff documented' release').mp named')

/-- Windows 10, build 19045. -/
def windows10Host : HostVersion := ⟨10, 0, 0, 19045⟩

/-- What the functions return there. -/
def windows10Functions : VersionFunctions where
  getVersion := 0x4A65000A
  isOrGreater release := decide (release.key ≤ windows10Host.key)

end Windows

end DslinkSystem
