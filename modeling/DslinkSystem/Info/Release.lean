import DslinkSystem.Info.CpuInfo

/-!
# Reading `/etc/lsb-release`

`get_OS_info` takes a name, four numbers and a description from the lines of the file. The
numbers are read by a chain of `strtoul` calls, each of which starts one character after
the end of the number before.

No call moves beyond the line as long as a character follows each of the first three
numbers (`parseRelease_eq_none_iff`); nothing else in the loop can fail
(`getOsFullName_eq_none_iff`).
-/

set_option autoImplicit false

namespace DslinkSystem

open TextScan

namespace Linux

/-- `OS_info_t`. -/
structure OSInfo where
  name : Text := []
  fullName : Text := []
  major : UInt64 := 0
  minor : UInt64 := 0
  patch : UInt64 := 0
  buildNumber : UInt64 := 0
  deriving DecidableEq, Repr

def distribId : Text := "DISTRIB_ID".toList
def distribRelease : Text := "DISTRIB_RELEASE".toList
def distribDescription : Text := "DISTRIB_DESCRIPTION".toList

/-- `line.substr(start, length)`, which throws beyond the end of the line. -/
def substr (line : Text) (start length : ℕ) : Option Text :=
  (pointer line start).map (·.take length)

/-- The difference of two sizes, modulo `2 ^ 64`. -/
def sizeSub (a b : ℕ) : ℕ := if b ≤ a then a - b else 2 ^ 64 - (b - a)

/-- `strtoul` on what stands at an offset of a line: the number, and the offset of its
end. -/
def strtoulAt (line : Text) (offset : ℕ) : Option (UInt64 × ℕ) :=
  (pointer line offset).map fun text => ((strtoul text).value, offset + (strtoul text).length)

/-- The numbers of a release, read from an offset of a line. -/
def parseRelease (info : OSInfo) (line : Text) (marker : ℕ) : Option OSInfo := do
  let (major, marker) ← strtoulAt line marker
  let (minor, marker) ← strtoulAt line (marker + 1)
  let (patch, marker) ← strtoulAt line (marker + 1)
  let (buildNumber, _) ← strtoulAt line (marker + 1)
  return { info with major, minor, patch, buildNumber }

/-- One turn of the loop over the lines. -/
def scanReleaseLine (info : OSInfo) (line : Text) : Option OSInfo :=
  if startsWith distribId line then do
    let name ← substr line (next (findFirstOf ['='] line)) line.length
    return { info with name }
  else if startsWith distribRelease line then
    parseRelease info line (next (findFirstOf ['='] line))
  else if startsWith distribDescription line then do
    let startIdx := next (findFirstOf ['"'] line)
    let endIdx := line.length - 1
    let fullName ← substr line startIdx (sizeSub endIdx startIdx)
    return { info with fullName }
  else some info

/-- `info::system::get_OS_info()`. -/
def getOSInfo (release : FileContent) : Option OSInfo :=
  match release with
  | none => some {}
  | some lines => lines.foldlM scanReleaseLine {}

/-- `info::system::get_os_full_name()`. -/
def getOsFullName (release : FileContent) : Option Text := (getOSInfo release).map (·.fullName)

/-! ## The chain of numbers -/

/-- A character follows each of the first numbers, where each number is read one character
after the one before. -/
def followed : ℕ → Text → Bool
  | 0, _ => true
  | n + 1, text =>
      match text.drop (strtoul text).length with
      | [] => false
      | _ :: rest => followed n rest

/-- The offset after a number is within the line or at its end, and what stands there is
what follows the number. -/
theorem strtoulAt_of_le {line : Text} {offset : ℕ} (within : offset ≤ line.length) :
    ∃ value ending, strtoulAt line offset = some (value, ending) ∧ ending ≤ line.length ∧
      line.drop ending = (line.drop offset).drop (strtoul (line.drop offset)).length := by
  have length := length_strtoul_le (line.drop offset)
  rw [List.length_drop] at length
  refine ⟨_, _, by rw [strtoulAt, pointer_of_le within]; rfl, by omega, ?_⟩
  rw [List.drop_drop]

/-- There is a next number exactly when a character follows this one. -/
theorem followed_succ {line : Text} {offset ending : ℕ} (n : ℕ) (bound : ending ≤ line.length)
    (rest : line.drop ending = (line.drop offset).drop (strtoul (line.drop offset)).length) :
    followed (n + 1) (line.drop offset) = true ↔
      ending + 1 ≤ line.length ∧ followed n (line.drop (ending + 1)) = true := by
  rw [followed, ← rest]
  rcases Nat.lt_or_eq_of_le bound with before | atEnd
  · rw [List.drop_eq_getElem_cons before]
    exact ⟨fun later => ⟨before, later⟩, fun later => later.2⟩
  · rw [atEnd, List.drop_length]
    simp

theorem strtoulAt_eq_none_iff {line : Text} {offset : ℕ} :
    strtoulAt line offset = none ↔ ¬ offset ≤ line.length := by
  rw [strtoulAt, Option.map_eq_none_iff, pointer_eq_none_iff, Nat.not_le]

/-- **The chain stays within the line** exactly when a character follows each of the first
three numbers. -/
theorem parseRelease_eq_none_iff {info : OSInfo} {line : Text} {marker : ℕ}
    (within : marker ≤ line.length) :
    parseRelease info line marker = none ↔ followed 3 (line.drop marker) = false := by
  obtain ⟨major, first, readMajor, first_le, afterMajor⟩ := strtoulAt_of_le within
  have minorFollows := followed_succ 2 first_le afterMajor
  rw [← Bool.not_eq_true, minorFollows]
  by_cases minorWithin : first + 1 ≤ line.length
  swap
  · simp [parseRelease, readMajor, strtoulAt_eq_none_iff.mpr minorWithin, minorWithin]
  obtain ⟨minor, second, readMinor, second_le, afterMinor⟩ := strtoulAt_of_le minorWithin
  have patchFollows := followed_succ 1 second_le afterMinor
  rw [patchFollows]
  by_cases patchWithin : second + 1 ≤ line.length
  swap
  · simp [parseRelease, readMajor, readMinor, strtoulAt_eq_none_iff.mpr patchWithin, patchWithin]
  obtain ⟨patch, third, readPatch, third_le, afterPatch⟩ := strtoulAt_of_le patchWithin
  have buildFollows := followed_succ 0 third_le afterPatch
  rw [buildFollows]
  by_cases buildWithin : third + 1 ≤ line.length
  swap
  · simp [parseRelease, readMajor, readMinor, readPatch, strtoulAt_eq_none_iff.mpr buildWithin,
      buildWithin]
  obtain ⟨build, fourth, readBuild, -, -⟩ := strtoulAt_of_le buildWithin
  simp [parseRelease, readMajor, readMinor, readPatch, readBuild, minorWithin, patchWithin,
    buildWithin, followed]

/-! ## The loop over the lines -/

/-- The release on the line, if it has one, is read without leaving the line. -/
def releaseReadable (line : Text) : Bool :=
  !startsWith distribRelease line || followed 3 (line.drop (next (findFirstOf ['='] line)))

theorem substr_of_le {line : Text} {start : ℕ} (within : start ≤ line.length) (length : ℕ) :
    substr line start length = some ((line.drop start).take length) := by
  rw [substr, pointer_of_le within]
  rfl

/-- A turn fails exactly on a release that is not read within its line. -/
theorem scanReleaseLine_eq_none_iff {info : OSInfo} {line : Text} :
    scanReleaseLine info line = none ↔ releaseReadable line = false := by
  cases isId : startsWith distribId line with
  | true =>
      have notRelease : startsWith distribRelease line = false :=
        startsWith_eq_false isId (by decide)
      simp [scanReleaseLine, releaseReadable, isId, notRelease,
        substr_of_le (next_findFirstOf_le ['='] line)]
  | false =>
      cases isRelease : startsWith distribRelease line with
      | true =>
          simp [scanReleaseLine, releaseReadable, isId, isRelease,
            parseRelease_eq_none_iff (next_findFirstOf_le ['='] line)]
      | false =>
          cases isDescription : startsWith distribDescription line with
          | true =>
              simp [scanReleaseLine, releaseReadable, isId, isRelease, isDescription,
                substr_of_le (next_findFirstOf_le ['"'] line)]
          | false => simp [scanReleaseLine, releaseReadable, isId, isRelease, isDescription]

/-- The loop fails exactly when a turn does. -/
theorem foldlM_scanReleaseLine_eq_none_iff (info : OSInfo) (lines : List Text) :
    lines.foldlM scanReleaseLine info = none ↔ ∃ line ∈ lines, releaseReadable line = false := by
  induction lines generalizing info with
  | nil => simp
  | cons line lines ih =>
      have first : scanReleaseLine info line = none ↔ _ := scanReleaseLine_eq_none_iff
      simp only [List.foldlM_cons, List.mem_cons, exists_eq_or_imp, ← first]
      cases turn : scanReleaseLine info line with
      | none => simp
      | some after => simp [ih after]

/-- **There is a name of the system** unless a release is not read within its line. -/
theorem getOsFullName_eq_none_iff {release : FileContent} :
    getOsFullName release = none ↔
      ∃ lines, release = some lines ∧ ∃ line ∈ lines, releaseReadable line = false := by
  rw [getOsFullName, Option.map_eq_none_iff]
  cases release with
  | none => simp [getOSInfo]
  | some lines => simp [getOSInfo, foldlM_scanReleaseLine_eq_none_iff]

/-- A release of two numbers is not: the third is read beyond the end of the line. -/
example : releaseReadable "DISTRIB_RELEASE=20.04".toList = false := by decide

end Linux

end DslinkSystem
