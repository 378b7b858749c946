import DslinkSystem.Info.CpuUsage

/-!
# Entries of `/proc/stat` are read back

A line for a processor is `cpu`, its label, and counters with blanks before each. The line
for all processors has no label. Other lines may stand anywhere between them.

`ReadStatsCPU` reads the entries back that were written, each with its label, its counters and
zeros for the counters it lacks (`readStatsCPU_written`). Its copy for Windows is the same
text.
-/

set_option autoImplicit false

namespace DslinkSystem

open TextScan

/-- `info::cpu::ReadStatsCPU()` in `info_win.cc`. -/
def Windows.readStatsCPU (stat : FileContent) : List Linux.CPUData :=
  ((stat.getD []).filter (startsWith "cpu".toList)).map Linux.readEntry

namespace Linux

/-! ## What is written -/

/-- `STR_CPU`. -/
def strCpu : Text := "cpu".toList

/-- An entry: its label in decimal, none for all processors, and at most ten counters. -/
structure StatEntry where
  label : Option Numeral
  counters : List WrittenNumber
  atMostTen : counters.length ≤ 10

namespace StatEntry

variable (entry : StatEntry)

/-- What stands before the blanks of the first counter. -/
def word : Text := strCpu ++ (entry.label.map Numeral.digits).getD []

/-- The line of the entry. -/
def text : Text := entry.word ++ entry.counters.flatMap WrittenNumber.text

/-- What is to be read: the label, the counters, and zeros for the missing ones. -/
def data : CPUData where
  cpu := (entry.label.map Numeral.digits).getD "tot".toList
  times :=
    ⟨(entry.counters.map WrittenNumber.value ++
        List.replicate (10 - entry.counters.length) 0).toArray, by
      have atMostTen := entry.atMostTen
      simp
      omega⟩

end StatEntry

/-- A line of the file: of an entry, or one that does not begin with `cpu`. -/
inductive StatLine where
  | entry (entry : StatEntry)
  | other (line : Text) (apart : startsWith strCpu line = false)

namespace StatLine

def text : StatLine → Text
  | .entry written => written.text
  | .other line _ => line

def entry? : StatLine → Option StatEntry
  | .entry written => some written
  | .other _ _ => none

end StatLine

/-! ## What is read -/

/-- No blank stands in the label. -/
theorem StatEntry.solid_word (entry : StatEntry) : ∀ c ∈ entry.word, isSpace c = false := by
  have solidCpu : ∀ c ∈ strCpu, isSpace c = false := by
    simp [strCpu, isSpace]
  intro c member
  rw [StatEntry.word, List.mem_append] at member
  rcases member with inCpu | inLabel
  · exact solidCpu c inCpu
  · cases labelled : entry.label with
    | none => simp [labelled] at inLabel
    | some label =>
        rw [labelled] at inLabel
        exact not_isSpace_of_isDigit (label.isDigit c inLabel)

/-- A blank follows the label, or nothing does. -/
theorem head?_flatMap_text (counters : List WrittenNumber) :
    ∀ c ∈ (counters.flatMap WrittenNumber.text).head?, isSpace c = true := by
  intro c member
  cases counters with
  | nil => cases member
  | cons counter counters =>
      obtain ⟨d, rest, shape, blank⟩ := counter.exists_cons
      rw [List.flatMap_cons, shape] at member
      cases member
      exact blank

/-- **An entry is read back** from its line. -/
theorem readEntry_text (entry : StatEntry) : readEntry entry.text = entry.data := by
  have there : entry.word ≠ [] := by simp [StatEntry.word, strCpu]
  have word := extractWord_append there entry.solid_word (head?_flatMap_text entry.counters)
  have numbers := extractNumbers_written entry.counters (10 - entry.counters.length)
  rw [Nat.add_sub_cancel' entry.atMostTen] at numbers
  have label : (if 3 < entry.word.length then entry.word.drop 3 else "tot".toList) =
      entry.data.cpu := by
    cases labelled : entry.label with
    | none => simp [StatEntry.word, StatEntry.data, labelled, strCpu]
    | some label =>
        have longer : 0 < label.digits.length := List.length_pos_of_ne_nil label.nonempty
        simp [StatEntry.word, StatEntry.data, labelled, strCpu, longer]
  simp only [readEntry, StatEntry.text, word, numbers, label]
  rfl

theorem startsWith_text (entry : StatEntry) : startsWith strCpu entry.text = true := by
  rw [StatEntry.text, StatEntry.word, List.append_assoc]
  exact startsWith_append strCpu _

/-- The entries of some lines, one after the other. -/
theorem readStatsCPU_text (lines : List StatLine) :
    readStatsCPU (some (lines.map StatLine.text)) =
      (lines.filterMap StatLine.entry?).map StatEntry.data := by
  induction lines with
  | nil => rfl
  | cons line lines ih =>
      rw [readStatsCPU, Option.getD_some] at ih ⊢
      rw [List.map_cons, List.filter_cons]
      cases line with
      | entry entry =>
          have begins : startsWith "cpu".toList (StatLine.entry entry).text = true :=
            startsWith_text entry
          have taken : StatLine.entry? (.entry entry) = some entry := rfl
          rw [if_pos begins, List.map_cons, ih, List.filterMap_cons_some taken, List.map_cons]
          exact congrArg (· :: _) (readEntry_text entry)
      | other line apart =>
          have passed : ¬ startsWith "cpu".toList (StatLine.other line apart).text = true :=
            Bool.eq_false_iff.mp apart
          have skipped : StatLine.entry? (.other line apart) = none := rfl
          rw [if_neg passed, ih, List.filterMap_cons_none skipped]

/-- **`ReadStatsCPU` reads back what was written**: one entry for each line of an entry, in
order, and none for the other lines. So does its copy. -/
theorem readStatsCPU_written (lines : List StatLine) :
    readStatsCPU (some (lines.map StatLine.text)) =
        (lines.filterMap StatLine.entry?).map StatEntry.data ∧
      Windows.readStatsCPU (some (lines.map StatLine.text)) =
        (lines.filterMap StatLine.entry?).map StatEntry.data :=
  ⟨readStatsCPU_text lines, readStatsCPU_text lines⟩

/-! ## A file for given counters -/

/-- A counter with one blank before it. -/
def writeCounter (counter : UInt64) : WrittenNumber where
  blanks := [' ']
  apart := List.cons_ne_nil _ _
  blank := by simp [isSpace]
  numeral := .ofNat counter.toNat
  small := by
    rw [Numeral.value_ofNat]
    exact counter.toNat_lt

@[simp] theorem value_writeCounter (counter : UInt64) : (writeCounter counter).value = counter := by
  rw [WrittenNumber.value, writeCounter, Numeral.value_ofNat, UInt64.ofNat_toNat]

/-- The line for all processors with ten counters, and nothing else. -/
def statOf (times : Vector UInt64 10) : FileContent :=
  some [StatEntry.text ⟨none, times.toList.map writeCounter, by simp⟩]

theorem readStatsCPU_statOf (times : Vector UInt64 10) :
    readStatsCPU (statOf times) = [⟨"tot".toList, times⟩] := by
  have same : WrittenNumber.value ∘ writeCounter = id := by
    funext counter
    exact value_writeCounter counter
  have read := readStatsCPU_text [.entry ⟨none, times.toList.map writeCounter, by simp⟩]
  refine read.trans (congrArg (fun times => [(⟨"tot".toList, times⟩ : CPUData)]) ?_)
  refine Vector.toList_inj.mp ?_
  simp [same]

end Linux

end DslinkSystem
