import DslinkSystem.Info.Release
import DslinkSystem.Library.NumberChain

/-!
# Releases of a system and of its kernel

`get_OS_info` and `get_kernel_info` take four numbers from a release by the same chain of
`strtoul` calls; the second one keeps 32 bits of each. A release has one to four numbers with
`.` or `-` between them, and may end with a suffix that is no number.

Each chain gives the numbers of the release, and zero for the missing ones, exactly when there are
four numbers, or there is a suffix after fewer and what the chain reads inside it is zero
(`release_chains_iff`). Without a suffix a chain reads beyond the end of the release.
-/

set_option autoImplicit false

namespace DslinkSystem

open TextScan

/-- What `uname` gives, as far as it is read: the characters before the terminators. -/
structure Utsname where
  sysname : Text
  release : Text
  terminated : '\x00' ∉ release
  deriving DecidableEq, Repr

/-- `kernel_info_t`. -/
structure KernelInfo where
  variant : Text
  major : UInt64
  minor : UInt64
  patch : UInt64
  buildNumber : UInt64
  deriving DecidableEq, Repr

/-- The text for the kernel. -/
def kernelVariant (sysname : Text) : Text :=
  if sysname = "Linux".toList then "Linux".toList
  else if sysname = "Darwin".toList then "Darwin".toList
  else "Unknown".toList

/-- `const unsigned int`, in a field of 64 bits. -/
def unsignedInt (value : UInt64) : UInt64 := value.toUInt32.toUInt64

/-- `info::system::get_kernel_info()`. -/
def Linux.getKernelInfo (uts : Utsname) : Option KernelInfo := do
  let (major, marker) ← strtoulAt uts.release 0
  let (minor, marker) ← strtoulAt uts.release (marker + 1)
  let (patch, marker) ← strtoulAt uts.release (marker + 1)
  let (buildNumber, _) ← strtoulAt uts.release (marker + 1)
  return ⟨kernelVariant uts.sysname, unsignedInt major, unsignedInt minor, unsignedInt patch,
    unsignedInt buildNumber⟩

/-- `info::system::get_kernel_info()` in `info_mac.cc`. -/
def MacOS.getKernelInfo (uts : Utsname) : Option KernelInfo := do
  let (major, marker) ← Linux.strtoulAt uts.release 0
  let (minor, marker) ← Linux.strtoulAt uts.release (marker + 1)
  let (patch, marker) ← Linux.strtoulAt uts.release (marker + 1)
  let (buildNumber, _) ← Linux.strtoulAt uts.release (marker + 1)
  return ⟨kernelVariant uts.sysname, unsignedInt major, unsignedInt minor, unsignedInt patch,
    unsignedInt buildNumber⟩

/-! ## Releases -/

/-- What stands between two numbers. -/
inductive Separator where
  | dot
  | dash
  deriving DecidableEq, Repr

def Separator.char : Separator → Char
  | dot => '.'
  | dash => '-'

theorem Separator.isDigit_char (separator : Separator) : separator.char.isDigit = false := by
  cases separator with
  | dot => rfl
  | dash => rfl

/-- A number after the first one. -/
structure ReleasePart where
  separator : Separator
  numeral : Numeral
  small : numeral.value < 2 ^ 32

/-- A suffix: text that begins with no digit, blank or sign, after a separator. -/
structure ReleaseSuffix where
  separator : Separator
  first : Char
  notDigit : first.isDigit = false
  notBlank : isSpace first = false
  notMinus : first ≠ '-'
  notPlus : first ≠ '+'
  rest : Text

/-- A release of one to four numbers. -/
structure ReleaseText where
  first : Numeral
  small : first.value < 2 ^ 32
  others : List ReleasePart
  atMostFour : others.length ≤ 3
  suffix : Option ReleaseSuffix

namespace ReleasePart

/-- The number with its separator, as a part of a chain. -/
def separated (part : ReleasePart) : Separated where
  separator := part.separator.char
  apart := part.separator.isDigit_char
  numeral := part.numeral
  small := Nat.lt_trans part.small (by decide)

end ReleasePart

def ReleaseSuffix.text (suffix : ReleaseSuffix) : Text :=
  suffix.separator.char :: suffix.first :: suffix.rest

namespace ReleaseText

variable (release : ReleaseText)

/-- The numbers after the first one. -/
def parts : List Separated := release.others.map ReleasePart.separated

/-- What follows the last number. -/
def ending : Text := (release.suffix.map ReleaseSuffix.text).getD []

/-- The release as it is written. -/
def text : Text :=
  release.first.digits ++ (release.parts.flatMap Separated.text ++ release.ending)

/-- The numbers that are written. -/
def numbers : List ℕ := release.first.value :: release.others.map (·.numeral.value)

/-- The number at a place, zero for a missing one. -/
def number (place : ℕ) : ℕ := release.numbers.getD place 0

/-- The missing numbers are read as zero: none is missing, or the suffix has all of them. The first
is read at the beginning of the suffix, where there is none; the others after its first
character. -/
def MissingReadZero (isZero : ℕ → Prop) : Prop :=
  match release.others.length, release.suffix with
  | 3, _ => True
  | 2, some _ => True
  | 1, some suffix => isZero (leadingNumber suffix.rest)
  | 0, some suffix =>
      isZero (leadingNumber suffix.rest) ∧
        ∃ c later, afterNumber suffix.rest = c :: later ∧ isZero (leadingNumber later)
  | _, _ => False

end ReleaseText

/-! ## The chains as calls at offsets -/

namespace Linux

/-- Some more numbers of a chain, each read one character after the end of the one before. -/
def furtherAt (line : Text) : ℕ → ℕ → Option (List UInt64)
  | 0, _ => some []
  | n + 1, ending => do
      let (value, ending) ← strtoulAt line (ending + 1)
      let later ← furtherAt line n ending
      return value :: later

/-- A chain reads what stands after each number, and nothing beyond the end of the line. -/
theorem furtherAt_eq {line : Text} (n : ℕ) {ending : ℕ} (bound : ending ≤ line.length) :
    furtherAt line n ending = readFurther n (line.drop ending) := by
  induction n generalizing ending with
  | zero => rfl
  | succ n ih =>
      cases after : line.drop ending with
      | nil =>
          have atEnd : line.length ≤ ending := List.drop_eq_nil_iff.mp after
          have beyond : strtoulAt line (ending + 1) = none :=
            strtoulAt_eq_none_iff.mpr (by omega)
          simp [furtherAt, beyond, readFurther]
      | cons c rest =>
          have before : ending < line.length := by
            have longer := congrArg List.length after
            rw [List.length_drop, List.length_cons] at longer
            omega
          have there : line.drop (ending + 1) = rest := by
            rw [← List.drop_drop, after]
            rfl
          obtain ⟨value, ending', read, bound', after'⟩ := strtoulAt_of_le before
          have called : strtoulAt line (ending + 1) =
              some ((strtoul rest).value, ending + 1 + (strtoul rest).length) := by
            rw [strtoulAt, pointer_of_le before, there]
            rfl
          rw [read] at called
          obtain ⟨rfl, -⟩ := Prod.mk.inj (Option.some.inj called)
          rw [there] at after'
          simp [furtherAt, read, ih bound', after', readFurther, afterNumber, Option.map_eq_bind]

/-- The four numbers that a chain reads from what stands at an offset. -/
theorem chain_eq {line : Text} {marker : ℕ} (within : marker ≤ line.length) :
    ((strtoulAt line marker).bind fun first =>
        (furtherAt line 3 first.2).map (first.1 :: ·)) =
      (readFurther 3 (afterNumber (line.drop marker))).map
        ((strtoul (line.drop marker)).value :: ·) := by
  obtain ⟨value, ending, read, bound, after⟩ := strtoulAt_of_le within
  have called : strtoulAt line marker = some ((strtoul (line.drop marker)).value,
      marker + (strtoul (line.drop marker)).length) := by
    rw [strtoulAt, pointer_of_le within]
    rfl
  rw [read] at called
  obtain ⟨rfl, -⟩ := Prod.mk.inj (Option.some.inj called)
  rw [read, Option.bind_some, furtherAt_eq 3 bound, after]
  rfl

/-- The numbers of the system, as they stand in its record. -/
def osNumbers (info : OSInfo) (numbers : List UInt64) : OSInfo :=
  { info with
    major := numbers.getD 0 0
    minor := numbers.getD 1 0
    patch := numbers.getD 2 0
    buildNumber := numbers.getD 3 0 }

/-- The numbers of the kernel, as they stand in its record. -/
def kernelNumbers (variant : Text) (numbers : List UInt64) : KernelInfo :=
  ⟨variant, numbers.getD 0 0, numbers.getD 1 0, numbers.getD 2 0, numbers.getD 3 0⟩

theorem parseRelease_eq (info : OSInfo) {line : Text} {marker : ℕ}
    (within : marker ≤ line.length) :
    parseRelease info line marker =
      (readFurther 3 (afterNumber (line.drop marker))).map fun later =>
        osNumbers info ((strtoul (line.drop marker)).value :: later) := by
  have chain := congrArg (Option.map (osNumbers info)) (chain_eq within)
  rw [Option.map_map] at chain
  refine Eq.trans ?_ chain
  simp [parseRelease, furtherAt, osNumbers, Option.map_bind, Option.bind_assoc]

theorem getKernelInfo_eq (uts : Utsname) :
    getKernelInfo uts =
      (readFurther 3 (afterNumber uts.release)).map fun later =>
        kernelNumbers (kernelVariant uts.sysname)
          (((strtoul uts.release).value :: later).map unsignedInt) := by
  have chain := congrArg (Option.map fun numbers =>
    kernelNumbers (kernelVariant uts.sysname) (numbers.map unsignedInt))
      (chain_eq (Nat.zero_le uts.release.length))
  rw [Option.map_map, List.drop_zero] at chain
  refine Eq.trans ?_ chain
  simp [getKernelInfo, furtherAt, kernelNumbers, Option.map_bind, Option.bind_assoc]

end Linux

/-! ## The chains on a release -/

/-- A suffix begins with no number. -/
theorem ReleaseSuffix.first_reads (suffix : ReleaseSuffix) :
    leadingNumber (suffix.first :: suffix.rest) = 0 ∧
      afterNumber (suffix.first :: suffix.rest) = suffix.first :: suffix.rest := by
  have nothing := strtoul_of_other suffix.notDigit suffix.notBlank suffix.notMinus suffix.notPlus
    suffix.rest
  refine ⟨strtoul_value_eq_zero_iff.mp (by rw [nothing]), ?_⟩
  rw [afterNumber, nothing]
  rfl

namespace ReleaseText

variable (release : ReleaseText)

/-- The number of the missing numbers. -/
def missing : ℕ := 3 - release.others.length

/-- The numbers of a release and zeros for the missing ones. -/
def padded : List UInt64 :=
  UInt64.ofNat release.first.value ::
    (release.parts.map Separated.value ++ List.replicate release.missing 0)

theorem length_parts : release.parts.length = release.others.length := List.length_map _

theorem length_padded : release.padded.length = 4 := by
  have atMostFour := release.atMostFour
  simp only [padded, List.length_cons, List.length_append, List.length_map, List.length_replicate,
    missing, length_parts]
  omega

theorem noDigitFirst_ending : NoDigitFirst release.ending := by
  unfold ending
  cases release.suffix with
  | none => exact NoDigitFirst.nil
  | some suffix => exact NoDigitFirst.cons suffix.separator.isDigit_char _

/-- What a chain reads of a release: its numbers, and then what the suffix gives. -/
theorem readFurther_text :
    (strtoul release.text).value = UInt64.ofNat release.first.value ∧
      readFurther 3 (afterNumber release.text) =
        (readFurther release.missing release.ending).map
          (release.parts.map Separated.value ++ ·) := by
  have first := noDigitFirst_parts release.parts release.noDigitFirst_ending
  have small : release.first.value < 2 ^ 64 := Nat.lt_trans release.small (by decide)
  obtain ⟨value, after⟩ := strtoul_numeral release.first small first
  have three : 3 = release.parts.length + release.missing := by
    have atMostFour := release.atMostFour
    rw [length_parts, missing]
    omega
  refine ⟨value, ?_⟩
  rw [text, after, three]
  exact readFurther_separated release.parts release.missing release.noDigitFirst_ending

/-- The suffix reads as zeros exactly when it has what is missing. -/
theorem readsZeros_ending_iff {isZero : ℕ → Prop} (zero : isZero 0) :
    ReadsZeros isZero release.missing release.ending ↔ release.MissingReadZero isZero := by
  have atMostFour := release.atMostFour
  unfold missing ending MissingReadZero
  generalize release.others.length = written at atMostFour ⊢
  have few : written = 0 ∨ written = 1 ∨ written = 2 ∨ written = 3 := by omega
  cases release.suffix with
  | none => rcases few with rfl | rfl | rfl | rfl <;> simp [ReadsZeros]
  | some suffix =>
      obtain ⟨number, after⟩ := suffix.first_reads
      rcases few with rfl | rfl | rfl | rfl
      · cases inside : afterNumber suffix.rest with
        | nil => simp [ReadsZeros, ReleaseSuffix.text, number, after, inside]
        | cons c later => simp [ReadsZeros, ReleaseSuffix.text, number, after, inside, zero]
      · simp [ReadsZeros, ReleaseSuffix.text, number, after, zero]
      · simp [ReadsZeros, ReleaseSuffix.text, number, zero]
      · simp [ReadsZeros]

/-- A chain gives the padded numbers exactly when the missing ones are read as zero, whatever
record they are put into and type they are converted to. -/
theorem chain_padded_iff {α : Type} {fill : List UInt64 → α} (convert : UInt64 → UInt64)
    {isZero : ℕ → Prop} (zero : isZero 0)
    (fill_injective : ∀ first second, first.length = 4 → second.length = 4 →
      fill first = fill second → first = second)
    (zero_iff : ∀ text, convert (strtoul text).value = convert 0 ↔
      isZero (leadingNumber text)) :
    ((readFurther 3 (afterNumber release.text)).map fun later =>
        fill (((strtoul release.text).value :: later).map convert)) =
        some (fill (release.padded.map convert)) ↔
      release.MissingReadZero isZero := by
  obtain ⟨value, chain⟩ := release.readFurther_text
  rw [← release.readsZeros_ending_iff zero, ← readFurther_zeros_iff zero_iff, value, chain,
    Option.map_map]
  have length := release.length_padded
  cases read : readFurther release.missing release.ending with
  | none => simp
  | some later =>
      have same_length := length_readFurther read
      simp only [Option.map_some, Option.some.injEq, Function.comp_apply]
      constructor
      · intro same
        have lists := fill_injective _ _ ?_ (by rw [List.length_map, length]) same
        · simpa [padded] using lists
        · rw [← length]
          simp [padded, same_length]
      · intro zeros
        simp [padded, zeros]

/-- What is to be read of a release of the system. -/
def osInfo (info : Linux.OSInfo) : Linux.OSInfo :=
  { info with
    major := UInt64.ofNat (release.number 0)
    minor := UInt64.ofNat (release.number 1)
    patch := UInt64.ofNat (release.number 2)
    buildNumber := UInt64.ofNat (release.number 3) }

/-- What is to be read of a release of a kernel. -/
def kernelInfo (variant : Text) : KernelInfo :=
  ⟨variant, UInt64.ofNat (release.number 0), UInt64.ofNat (release.number 1),
    UInt64.ofNat (release.number 2), UInt64.ofNat (release.number 3)⟩

/-- The padded numbers are the numbers of the release at each place. -/
theorem getD_padded (place : ℕ) :
    release.padded.getD place 0 = UInt64.ofNat (release.number place) := by
  have values : release.parts.map Separated.value =
      (release.others.map (·.numeral.value)).map UInt64.ofNat := by
    simp only [parts, List.map_map]
    rfl
  have shape : release.padded = release.numbers.map UInt64.ofNat ++
      List.replicate release.missing 0 := by
    rw [padded, values, numbers, List.map_cons, List.cons_append]
  rw [shape, number, List.getD_eq_getElem?_getD, List.getD_eq_getElem?_getD]
  by_cases written : place < release.numbers.length
  · rw [List.getElem?_append_left (by rwa [List.length_map]), List.getElem?_map,
      List.getElem?_eq_getElem written]
    rfl
  · have beyond : release.numbers[place]? = none :=
      List.getElem?_eq_none (Nat.not_lt.mp written)
    rw [List.getElem?_append_right (by simpa using written), beyond]
    cases zero : (List.replicate release.missing (0 : UInt64))[
        place - (release.numbers.map UInt64.ofNat).length]? with
    | none => rfl
    | some value => rw [Option.getD_some, List.eq_of_mem_replicate (List.mem_of_getElem? zero)]; rfl

/-- 32 bits are enough for each number. -/
theorem map_unsignedInt_padded : release.padded.map unsignedInt = release.padded := by
  have kept : ∀ n < 2 ^ 32, unsignedInt (UInt64.ofNat n) = UInt64.ofNat n := by
    intro n small
    rw [← UInt64.toNat_inj]
    simp only [unsignedInt, UInt32.toNat_toUInt64, UInt64.toNat_toUInt32, UInt64.toNat_ofNat']
    omega
  have others : (release.parts.map Separated.value).map unsignedInt =
      release.parts.map Separated.value := by
    simp only [parts, List.map_map]
    apply List.map_congr_left
    intro part _
    exact kept _ part.small
  rw [padded, List.map_cons, List.map_append, List.map_replicate, others, kept _ release.small]
  rfl

end ReleaseText

/-! ## When the chains read a release -/

/-- What reads as zero in 64 bits, and in 32. -/
def zero64 (n : ℕ) : Prop := n = 0
def zero32 (n : ℕ) : Prop := n < 2 ^ 64 ∧ n % 2 ^ 32 = 0

instance (n : ℕ) : Decidable (zero32 n) := inferInstanceAs (Decidable (_ ∧ _))

theorem unsignedInt_eq_zero_iff (text : Text) :
    unsignedInt (strtoul text).value = unsignedInt 0 ↔ zero32 (leadingNumber text) := by
  rw [zero32, ← strtoul_toUInt32_eq_zero_iff, unsignedInt, unsignedInt, ← UInt64.toNat_inj,
    ← UInt32.toNat_inj]
  simp only [UInt32.toNat_toUInt64]
  rfl

/-- A list of four is known by its four elements. -/
theorem eq_of_getD {first second : List UInt64} (length : first.length = 4)
    (length' : second.length = 4)
    (same : first.getD 0 0 = second.getD 0 0 ∧ first.getD 1 0 = second.getD 1 0 ∧
      first.getD 2 0 = second.getD 2 0 ∧ first.getD 3 0 = second.getD 3 0) : first = second := by
  obtain ⟨a, b, c, d, rfl⟩ := List.length_eq_four.mp length
  obtain ⟨a', b', c', d', rfl⟩ := List.length_eq_four.mp length'
  simpa using same

theorem Linux.osNumbers_injective (info : OSInfo) (first second : List UInt64)
    (length : first.length = 4) (length' : second.length = 4)
    (same : osNumbers info first = osNumbers info second) : first = second := by
  simp only [osNumbers, OSInfo.mk.injEq, true_and] at same
  exact eq_of_getD length length' same

theorem Linux.kernelNumbers_injective (variant : Text) (first second : List UInt64)
    (length : first.length = 4) (length' : second.length = 4)
    (same : kernelNumbers variant first = kernelNumbers variant second) : first = second :=
  eq_of_getD length length' (KernelInfo.mk.inj same).2

/-- The release in the line of a file: the chain starts after the `=`. -/
theorem scanReleaseLine_release (info : Linux.OSInfo) (text : Text) :
    Linux.scanReleaseLine info (Linux.distribRelease ++ '=' :: text) =
      (readFurther 3 (afterNumber text)).map fun later =>
        Linux.osNumbers info ((strtoul text).value :: later) := by
  have begins := startsWith_append Linux.distribRelease ('=' :: text)
  have notId : startsWith Linux.distribId (Linux.distribRelease ++ '=' :: text) = false :=
    startsWith_eq_false begins (by decide)
  have none_before : ∀ c ∈ Linux.distribRelease, c ∉ ['='] := by
    have each : ∀ c ∈ Linux.distribRelease, (c != '=') = true := List.all_eq_true.mp (by decide)
    intro c member
    simpa using each c member
  have found : findFirstOf ['='] (Linux.distribRelease ++ '=' :: text) =
      some Linux.distribRelease.length :=
    findFirstOf_append none_before List.mem_cons_self
  have within : Linux.distribRelease.length + 1 ≤
      (Linux.distribRelease ++ '=' :: text).length := by simp
  have there : (Linux.distribRelease ++ '=' :: text).drop (Linux.distribRelease.length + 1) =
      text := by simp
  rw [Linux.scanReleaseLine, notId, begins, found, next]
  simp only [Bool.false_eq_true, if_false, if_true]
  rw [Linux.parseRelease_eq info within, there]

/-- **When a release is read.** Both chains give the numbers of a release, and zero for the
missing ones, exactly when the missing ones are read as zero: in 64 bits for the system, and
in 32 for the kernel. -/
theorem release_chains_iff (release : ReleaseText) (info : Linux.OSInfo) (uts : Utsname)
    (named : uts.release = release.text) :
    (Linux.scanReleaseLine info (Linux.distribRelease ++ '=' :: release.text) =
        some (release.osInfo info) ↔ release.MissingReadZero zero64) ∧
      (Linux.getKernelInfo uts = some (release.kernelInfo (kernelVariant uts.sysname)) ↔
        release.MissingReadZero zero32) ∧
        (MacOS.getKernelInfo uts = some (release.kernelInfo (kernelVariant uts.sysname)) ↔
          release.MissingReadZero zero32) := by
  have forSystem : Linux.scanReleaseLine info (Linux.distribRelease ++ '=' :: release.text) =
      some (release.osInfo info) ↔ release.MissingReadZero zero64 := by
    have expected : release.osInfo info = Linux.osNumbers info (release.padded.map id) := by
      simp only [ReleaseText.osInfo, Linux.osNumbers, List.map_id, release.getD_padded]
    rw [scanReleaseLine_release, expected]
    have zero : zero64 0 := rfl
    have chain := release.chain_padded_iff id zero (Linux.osNumbers_injective info)
      fun text => strtoul_value_eq_zero_iff
    simpa only [List.map_id] using chain
  have forKernel : Linux.getKernelInfo uts =
      some (release.kernelInfo (kernelVariant uts.sysname)) ↔ release.MissingReadZero zero32 := by
    have expected : release.kernelInfo (kernelVariant uts.sysname) =
        Linux.kernelNumbers (kernelVariant uts.sysname) (release.padded.map unsignedInt) := by
      rw [release.map_unsignedInt_padded]
      simp only [ReleaseText.kernelInfo, Linux.kernelNumbers, release.getD_padded]
    rw [Linux.getKernelInfo_eq, named, expected]
    exact release.chain_padded_iff unsignedInt ⟨by decide, rfl⟩
      (Linux.kernelNumbers_injective (kernelVariant uts.sysname)) unsignedInt_eq_zero_iff
  exact ⟨forSystem, forKernel, forKernel⟩

/-- A release of numbers with dots between them, and perhaps a suffix. -/
def ReleaseText.dotted (first second : ℕ) (small : first < 2 ^ 32) (small' : second < 2 ^ 32)
    (suffix : Option ReleaseSuffix) : ReleaseText where
  first := .ofNat first
  small := by rwa [Numeral.value_ofNat]
  others := [⟨.dot, .ofNat second, by rwa [Numeral.value_ofNat]⟩]
  atMostFour := by simp
  suffix := suffix

/-- A kernel `6.8-generic`: the numbers that are missing are read inside the suffix. -/
def generic : ReleaseText :=
  .dotted 6 8 (by decide) (by decide)
    (some ⟨.dash, 'g', by decide, by decide, by decide, by decide, "eneric".toList⟩)

theorem release_chains_generic :
    (⟨"Linux".toList, "6.8-generic".toList, by decide⟩ : Utsname).release = generic.text ∧
      Linux.scanReleaseLine {} (Linux.distribRelease ++ '=' :: generic.text) =
        some (generic.osInfo {}) ∧
        Linux.getKernelInfo ⟨"Linux".toList, "6.8-generic".toList, by decide⟩ =
          some (generic.kernelInfo "Linux".toList) := by
  have named : (⟨"Linux".toList, "6.8-generic".toList, by decide⟩ : Utsname).release =
      generic.text := by decide
  have chains := release_chains_iff generic {} _ named
  exact ⟨named, chains.1.mpr (by decide : leadingNumber "eneric".toList = 0),
    chains.2.1.mpr (by decide : zero32 (leadingNumber "eneric".toList))⟩

/-- A system `20.4`: the third number is read beyond the end of the line. -/
def twoNumbers : ReleaseText := .dotted 20 4 (by decide) (by decide) none

/-- Neither chain reads a release of two numbers. -/
theorem release_chains_read_beyond :
    ¬ ∀ (release : ReleaseText) (info : Linux.OSInfo) (uts : Utsname),
      uts.release = release.text →
        Linux.scanReleaseLine info (Linux.distribRelease ++ '=' :: release.text) =
            some (release.osInfo info) ∧
          Linux.getKernelInfo uts = some (release.kernelInfo (kernelVariant uts.sysname)) ∧
          MacOS.getKernelInfo uts = some (release.kernelInfo (kernelVariant uts.sysname)) := by
  intro every
  have chains := every twoNumbers {} ⟨"Linux".toList, "20.4".toList, by decide⟩ (by decide)
  have beyond : Linux.scanReleaseLine {} (Linux.distribRelease ++ '=' :: twoNumbers.text) = none :=
    Linux.scanReleaseLine_eq_none_iff.mpr (by decide)
  rw [beyond] at chains
  cases chains.1

end DslinkSystem
