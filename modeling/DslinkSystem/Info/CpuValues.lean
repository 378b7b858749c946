import DslinkSystem.Info.CpuInfo

/-!
# Values in `/proc/cpuinfo`

A line of `/proc/cpuinfo` has a name, a colon, perhaps blanks, and a value. `cpuinfo_value`
searches the first character that is not blank from the colon on, and takes what follows it.
What it finds is the colon. `get_frequency` takes what follows the colon without a search.

So both give the value exactly when there are no blanks before it, and no NUL within it
(`cpuinfo_values_iff`).
-/

set_option autoImplicit false

namespace DslinkSystem

open TextScan

namespace Linux

/-- A line with a value: what stands before the colon, the blanks and tabs after it, and the
value, which begins with neither. -/
structure ValueLine where
  name : Text
  noColon : ':' ∉ name
  padding : Text
  blank : ∀ c ∈ padding, c = ' ' ∨ c = '\t'
  first : Char
  notBlank : first ≠ ' ' ∧ first ≠ '\t'
  rest : Text

namespace ValueLine

variable (line : ValueLine)

def value : Text := line.first :: line.rest

def text : Text := line.name ++ ':' :: (line.padding ++ line.value)

/-- The value follows the colon, and is a string. -/
def Bare : Prop := line.padding = [] ∧ '\x00' ∉ line.value

/-- The search for the colon finds it. -/
theorem findFirstOf_text : findFirstOf [':'] line.text = some line.name.length := by
  refine findFirstOf_append ?_ List.mem_cons_self
  intro c member same
  exact line.noColon (List.mem_singleton.mp same ▸ member)

/-- The search that starts at the colon finds the colon, which is not blank. -/
theorem findFirstNotOf_text :
    findFirstNotOf [' ', '\t'] line.text line.name.length = some line.name.length := by
  have from_colon : line.text.drop line.name.length = ':' :: (line.padding ++ line.value) :=
    List.drop_left
  rw [findFirstNotOf, from_colon, List.findIdx?_cons]
  simp

/-- What stands after the colon. -/
theorem drop_text : line.text.drop (line.name.length + 1) = line.padding ++ line.value := by
  rw [text, ← List.drop_drop, List.drop_left]
  rfl

theorem pointer_text :
    pointer line.text (line.name.length + 1) = some (line.padding ++ line.value) := by
  rw [pointer_of_le (by simp [text]), drop_text]

/-- What is taken is the value exactly when the line is bare. -/
theorem cString_eq_value_iff : cString (line.padding ++ line.value) = line.value ↔ line.Bare := by
  have plain : ∀ c ∈ line.padding, decide (c ≠ '\x00') = true := by
    intro c member
    rcases line.blank c member with rfl | rfl <;> rfl
  rw [cString, List.takeWhile_append_of_pos plain]
  constructor
  · intro same
    cases padded : line.padding with
    | nil =>
        rw [padded, List.nil_append, List.takeWhile_eq_self_iff] at same
        exact ⟨padded, fun member => absurd (same _ member) (by decide)⟩
    | cons c padding =>
        -- The value would begin with a blank.
        rw [padded, List.cons_append, value] at same
        have blank := line.blank c (padded ▸ List.mem_cons_self)
        rw [(List.cons.inj same).1] at blank
        exact absurd blank (not_or.mpr line.notBlank)
  · rintro ⟨padded, clean⟩
    rw [padded]
    exact cString_eq_self clean

end ValueLine

/-- **When a value is read without its padding.** The value of a key, and the frequency, are those
of the first line that begins with the key exactly when the line is bare. -/
theorem cpuinfo_values_iff (lines : List Text) (line : ValueLine) :
    (∀ key, lines.find? (startsWith key) = some line.text →
        (cpuinfoValue key (some lines) = some line.value ↔ line.Bare)) ∧
      (lines.find? (startsWith cpuMHz) = some line.text →
        (getFrequency (some lines) = some (line.value ++ " MHz".toList) ↔ line.Bare)) := by
  rw [← line.cString_eq_value_iff]
  constructor
  · intro key found
    simp [cpuinfoValue, found, line.findFirstOf_text, line.findFirstNotOf_text, next,
      line.pointer_text]
  · intro found
    simp [getFrequency, found, line.findFirstOf_text, next, line.pointer_text]

/-- A line as the kernel writes it, with or without the blank before the value. -/
def vendorLine (padding : Text) (blank : ∀ c ∈ padding, c = ' ' ∨ c = '\t') : ValueLine where
  name := "vendor_id\t".toList
  noColon := by decide
  padding := padding
  blank := blank
  first := 'I'
  notBlank := by decide
  rest := "ntel".toList

theorem cpuinfo_values_without_padding :
    [(vendorLine [] (by simp)).text].find? (startsWith vendor) =
        some (vendorLine [] (by simp)).text ∧
      cpuinfoValue vendor (some [(vendorLine [] (by simp)).text]) = some "Intel".toList := by
  have found : [(vendorLine [] (by simp)).text].find? (startsWith vendor) =
      some (vendorLine [] (by simp)).text := by decide
  exact ⟨found, ((cpuinfo_values_iff _ _).1 vendor found).mpr ⟨rfl, by decide⟩⟩

/-- The blank before the value stays. -/
theorem cpuinfo_value_keeps_padding :
    ¬ ∀ (lines : List Text) (line : ValueLine),
      (∀ key, lines.find? (startsWith key) = some line.text →
          cpuinfoValue key (some lines) = some line.value) ∧
        (lines.find? (startsWith cpuMHz) = some line.text →
          getFrequency (some lines) = some (line.value ++ " MHz".toList)) := by
  intro every
  have read := (every [(vendorLine [' '] (by simp)).text] (vendorLine [' '] (by simp))).1 vendor
    (by decide)
  exact absurd read (by decide)

end Linux

end DslinkSystem
