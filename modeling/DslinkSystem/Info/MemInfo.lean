import DslinkSystem.Info.CpuInfo

/-!
# Reading `/proc/meminfo`

`get_memory_info` has four variables for the figures it reads, without initial values.
A line assigns one of them; the line for what is cached assigns `physical_used`, from the
variables for what is total and free. `getMemoryInfo` has no result when a variable is read
that was not assigned. `getMemoryInfoFrom` is given what the variables held before; it always has
a result, and where only assigned variables are read it is the same one
(`getMemoryInfoFrom_of_assigned`). How the percentage, a floating-point number, is written is
left open.

The code takes a line for a figure when it begins with the figure's name, so a longer name will do.
On files of lines `Name: N kB`, the getter reads assigned variables only, and reports what
the file says, exactly when lines of all four kinds are there, before each one taken for what is
cached one for what is total and one for what is free, and the lines that are taken for the
figures come to the megabytes of those that have the names (`memory_faithful_iff`). This is so of
every file in order that has no longer names (`figuresKept_of_plainNames`).
-/

set_option autoImplicit false

namespace DslinkSystem

open TextScan

namespace Linux

/-! ## The getter -/

def memTotal : Text := "MemTotal".toList
def memFree : Text := "MemFree".toList
def memAvailable : Text := "MemAvailable".toList
def cached : Text := "Cached".toList

/-- `physical_used`, `physical_available`, `physical_free` and `physical_total`: what was
assigned to them, if anything. -/
structure MemoryCells where
  used : Option UInt64 := none
  available : Option UInt64 := none
  free : Option UInt64 := none
  total : Option UInt64 := none
  deriving DecidableEq, Repr

/-- One turn of the loop over the lines. Without a colon the whole line is read (`next`). -/
def scanMemLine (cells : MemoryCells) (line : Text) : Option MemoryCells := do
  let number ← pointer line (next (findFirstOf [':'] line))
  let value := (strtoul number).value * 1024
  if startsWith memTotal line then
    return { cells with total := some value }
  else if startsWith memFree line then
    return { cells with free := some value }
  else if startsWith memAvailable line then
    return { cells with available := some value }
  else if startsWith cached line then
    let total ← cells.total
    let free ← cells.free
    return { cells with used := some (total - free - value) }
  else return cells

/-- `memory_t`, without the percentage. -/
structure MemoryInfo where
  physicalUsed : Text := []
  physicalAvailable : Text := []
  physicalFree : Text := []
  physicalTotal : Text := []
  deriving DecidableEq, Repr

/-- `std::to_string(value / 1024 / 1024) + " mb"`. -/
def megabytes (value : UInt64) : Text := decimal (value / 1024 / 1024).toNat ++ " mb".toList

/-- `info::system::get_memory_info()`. -/
def getMemoryInfo (meminfo : FileContent) : Option MemoryInfo :=
  match meminfo with
  | none => some {}
  | some lines => do
      let cells ← lines.foldlM scanMemLine {}
      let total ← cells.total
      let available ← cells.available
      let free ← cells.free
      let used ← cells.used
      return {
        physicalUsed := megabytes used
        physicalAvailable := megabytes available
        physicalFree := megabytes free
        physicalTotal := megabytes total }

/-! ## What unassigned variables held -/

/-- What the four variables hold, assigned or not. -/
structure MemoryWords where
  used : UInt64
  available : UInt64
  free : UInt64
  total : UInt64
  deriving DecidableEq, Repr

/-- What the variables hold when those that were not assigned hold what is given. -/
def MemoryCells.over (cells : MemoryCells) (held : MemoryWords) : MemoryWords where
  used := cells.used.getD held.used
  available := cells.available.getD held.available
  free := cells.free.getD held.free
  total := cells.total.getD held.total

/-- One turn of the loop over the lines, whatever the variables hold. -/
def scanMemWords (words : MemoryWords) (line : Text) : Option MemoryWords := do
  let number ← pointer line (next (findFirstOf [':'] line))
  let value := (strtoul number).value * 1024
  if startsWith memTotal line then
    return { words with total := value }
  else if startsWith memFree line then
    return { words with free := value }
  else if startsWith memAvailable line then
    return { words with available := value }
  else if startsWith cached line then
    return { words with used := words.total - words.free - value }
  else return words

/-- `info::system::get_memory_info()`, when the variables held something before. -/
def getMemoryInfoFrom (held : MemoryWords) (meminfo : FileContent) : Option MemoryInfo :=
  match meminfo with
  | none => some {}
  | some lines => do
      let words ← lines.foldlM scanMemWords held
      return {
        physicalUsed := megabytes words.used
        physicalAvailable := megabytes words.available
        physicalFree := megabytes words.free
        physicalTotal := megabytes words.total }

/-- The figure `_physical_usage` of `memory_t`; how the share is written is given. -/
def getMemoryUsageFrom (share : UInt64 → UInt64 → Text) (held : MemoryWords)
    (meminfo : FileContent) : Option Text :=
  match meminfo with
  | none => some []
  | some lines => do
      let words ← lines.foldlM scanMemWords held
      return share words.used words.total ++ "%".toList

/-- A turn of the loop always has a result: what follows the colon is within the line. -/
theorem scanMemWords_ne_none (words : MemoryWords) (line : Text) :
    scanMemWords words line ≠ none := by
  rw [scanMemWords, pointer_of_le (next_findFirstOf_le [':'] line), Option.bind_eq_bind,
    Option.bind_some]
  split_ifs <;> exact Option.some_ne_none _

theorem foldlM_scanMemWords_ne_none (words : MemoryWords) (lines : List Text) :
    lines.foldlM scanMemWords words ≠ none := by
  induction lines generalizing words with
  | nil => exact Option.some_ne_none _
  | cons line lines ih =>
      obtain ⟨after, turn⟩ := Option.ne_none_iff_exists'.mp (scanMemWords_ne_none words line)
      rw [List.foldlM_cons, turn]
      exact ih after

/-- The getters of the memory always have a result. -/
theorem getMemoryInfoFrom_ne_none (held : MemoryWords) (meminfo : FileContent) :
    getMemoryInfoFrom held meminfo ≠ none := by
  cases meminfo with
  | none => exact Option.some_ne_none _
  | some lines =>
      obtain ⟨words, read⟩ := Option.ne_none_iff_exists'.mp (foldlM_scanMemWords_ne_none held lines)
      simp [getMemoryInfoFrom, read]

theorem getMemoryUsageFrom_ne_none (share : UInt64 → UInt64 → Text) (held : MemoryWords)
    (meminfo : FileContent) : getMemoryUsageFrom share held meminfo ≠ none := by
  cases meminfo with
  | none => exact Option.some_ne_none _
  | some lines =>
      obtain ⟨words, read⟩ := Option.ne_none_iff_exists'.mp (foldlM_scanMemWords_ne_none held lines)
      simp [getMemoryUsageFrom, read]

/-- A turn that reads assigned variables only does the same whatever the others hold. -/
theorem scanMemWords_over {cells after : MemoryCells} {line : Text} (held : MemoryWords)
    (turn : scanMemLine cells line = some after) :
    scanMemWords (cells.over held) line = some (after.over held) := by
  rw [scanMemLine, Option.bind_eq_bind, Option.bind_eq_some_iff] at turn
  obtain ⟨number, found, turn⟩ := turn
  rw [scanMemWords, found, Option.bind_eq_bind, Option.bind_some]
  split_ifs at turn ⊢ with isTotal isFree isAvailable isCached
  · obtain rfl := Option.some.inj turn
    rfl
  · obtain rfl := Option.some.inj turn
    rfl
  · obtain rfl := Option.some.inj turn
    rfl
  · simp only [Option.bind_eq_bind, Option.bind_eq_some_iff] at turn
    obtain ⟨total, isTotal', free, isFree', result⟩ := turn
    obtain rfl := Option.some.inj result
    simp [MemoryCells.over, isTotal', isFree']
  · obtain rfl := Option.some.inj turn
    rfl

theorem foldlM_scanMemWords_over {cells after : MemoryCells} {lines : List Text}
    (held : MemoryWords) (read : lines.foldlM scanMemLine cells = some after) :
    lines.foldlM scanMemWords (cells.over held) = some (after.over held) := by
  induction lines generalizing cells with
  | nil =>
      obtain rfl := Option.some.inj read
      rfl
  | cons line lines ih =>
      rw [List.foldlM_cons, Option.bind_eq_bind, Option.bind_eq_some_iff] at read
      obtain ⟨middle, turn, rest⟩ := read
      rw [List.foldlM_cons, scanMemWords_over held turn]
      exact ih rest

/-- **What the getter reports from assigned variables it reports whatever they held.** -/
theorem getMemoryInfoFrom_of_assigned {meminfo : FileContent} {info : MemoryInfo}
    (held : MemoryWords) (result : getMemoryInfo meminfo = some info) :
    getMemoryInfoFrom held meminfo = some info := by
  cases meminfo with
  | none => exact result
  | some lines =>
      simp only [getMemoryInfo, Option.bind_eq_bind, Option.bind_eq_some_iff] at result
      obtain ⟨cells, read, total, isTotal, available, isAvailable, free, isFree, used, isUsed,
        reported⟩ := result
      have words := foldlM_scanMemWords_over held read
      rw [getMemoryInfoFrom]
      change (lines.foldlM scanMemWords held).bind _ = _
      have start : ({} : MemoryCells).over held = held := rfl
      rw [start] at words
      rw [words, Option.bind_some, ← reported]
      simp [MemoryCells.over, isTotal, isAvailable, isFree, isUsed]

/-! ## Lines of the file -/

/-- What stands after the number. -/
def kB : Text := " kB".toList

theorem noDigitFirst_kB : NoDigitFirst kB := by
  have shape : kB = ' ' :: ['k', 'B'] := by decide
  rw [shape]
  exact NoDigitFirst.cons (by decide) _

/-- A line `Name: N kB`. -/
structure MemLine where
  name : Text
  padding : Text
  number : ℕ
  noColon : ':' ∉ name
  blank : ∀ c ∈ padding, isSpace c = true
  small : 1024 * number < 2 ^ 64

namespace MemLine

/-- The line as it is written. -/
def text (line : MemLine) : Text :=
  line.name ++ ':' :: (line.padding ++ (decimal line.number ++ kB))

/-- The number of bytes. -/
def bytes (line : MemLine) : UInt64 := UInt64.ofNat (1024 * line.number)

/-- The line has the given name. -/
def named (key : Text) (line : MemLine) : Bool := decide (line.name = key)

/-- The code takes the line for one of the given name: its name begins with it. -/
def isOf (key : Text) (line : MemLine) : Bool := startsWith key line.name

/-- A key without a colon begins the line when it begins the name. -/
theorem startsWith_text {key : Text} (noColon : ':' ∉ key) (line : MemLine) :
    startsWith key line.text = line.isOf key := by
  rw [Bool.eq_iff_iff, isOf, startsWith_iff, startsWith_iff]
  constructor
  · rintro ⟨rest, same⟩
    rcases List.append_eq_append_iff.mp same.symm with ⟨tail, longer, -⟩ | ⟨tail, longer, split⟩
    · exact ⟨tail, longer⟩
    · cases tail with
      | nil => exact ⟨[], by rw [List.append_nil, longer, List.append_nil]⟩
      | cons c tail =>
          -- the key would reach beyond the colon
          obtain ⟨rfl, -⟩ := List.cons.inj split
          exact absurd (longer ▸ by simp) noColon
  · rintro ⟨rest, same⟩
    exact ⟨rest ++ ':' :: (line.padding ++ (decimal line.number ++ kB)), by
      rw [text, same, List.append_assoc]⟩

/-- What stands after the colon is the number. -/
theorem pointer_text (line : MemLine) :
    pointer line.text (next (findFirstOf [':'] line.text)) =
      some (line.padding ++ (decimal line.number ++ kB)) := by
  have none_before : ∀ d ∈ line.name, d ∉ [':'] := by
    intro d member same
    obtain rfl := List.mem_singleton.mp same
    exact line.noColon member
  have found : findFirstOf [':'] line.text = some line.name.length :=
    findFirstOf_append none_before (List.mem_singleton_self ':')
  have shape : line.text = (line.name ++ [':']) ++
      (line.padding ++ (decimal line.number ++ kB)) := by
    simp [text]
  have length : line.name.length + 1 = (line.name ++ [':']).length := by simp
  rw [found, next, length, shape, pointer_append]

/-- It is read and turned into bytes. -/
theorem strtoul_text (line : MemLine) :
    (strtoul (line.padding ++ (decimal line.number ++ kB))).value * 1024 =
      line.bytes := by
  have small : line.number < 2 ^ 64 := by
    have bound := line.small
    omega
  rw [strtoul_decimal small line.blank noDigitFirst_kB, bytes, Nat.mul_comm,
    UInt64.ofNat_mul]
  rfl

/-- Nothing is lost. -/
theorem toNat_bytes (line : MemLine) : line.bytes.toNat = 1024 * line.number :=
  UInt64.toNat_ofNat_of_lt' line.small

end MemLine

/-! ## One turn of the loop -/

/-- What a turn of the loop leaves: the line for a figure assigns it, and the line for what
is cached reads two of them. -/
structure Turn (cells : MemoryCells) (line : MemLine) (after : MemoryCells) : Prop where
  total : after.total = if line.isOf memTotal then some line.bytes else cells.total
  free : after.free = if line.isOf memFree then some line.bytes else cells.free
  available : after.available =
    if line.isOf memAvailable then some line.bytes else cells.available
  other : line.isOf cached = false → after.used = cells.used
  used : line.isOf cached = true → ∃ total free, cells.total = some total ∧
    cells.free = some free ∧ after.used = some (total - free - line.bytes)

/-- No line is for two of the names. -/
theorem isOf_eq_false {key other : Text} {line : MemLine} (begins : line.isOf key = true)
    (apart : startsWith key other = false ∧ startsWith other key = false) :
    line.isOf other = false := startsWith_eq_false begins apart

/-- What the tests and the number of a line come to. -/
theorem scanMemLine_eq (cells : MemoryCells) (line : MemLine) :
    scanMemLine cells line.text =
      if line.isOf memTotal then some { cells with total := some line.bytes }
      else if line.isOf memFree then some { cells with free := some line.bytes }
      else if line.isOf memAvailable then some { cells with available := some line.bytes }
      else if line.isOf cached then cells.total.bind fun total => cells.free.bind fun free =>
        some { cells with used := some (total - free - line.bytes) }
      else some cells := by
  simp only [scanMemLine, line.pointer_text, Option.bind_eq_bind, Option.bind_some,
    line.strtoul_text, line.startsWith_text (by decide : ':' ∉ memTotal),
    line.startsWith_text (by decide : ':' ∉ memFree),
    line.startsWith_text (by decide : ':' ∉ memAvailable),
    line.startsWith_text (by decide : ':' ∉ cached), Option.pure_def]

/-- A line that is not for what is cached assigns the figure it is for. -/
theorem scanMemLine_of_not_cached (cells : MemoryCells) {line : MemLine}
    (notCached : line.isOf cached = false) :
    scanMemLine cells line.text = some {
      used := cells.used
      available := if line.isOf memAvailable then some line.bytes else cells.available
      free := if line.isOf memFree then some line.bytes else cells.free
      total := if line.isOf memTotal then some line.bytes else cells.total } := by
  rw [scanMemLine_eq]
  cases isTotal : line.isOf memTotal with
  | true =>
      have notFree := isOf_eq_false isTotal (by decide : startsWith memTotal memFree = false ∧ _)
      have notAvailable :=
        isOf_eq_false isTotal (by decide : startsWith memTotal memAvailable = false ∧ _)
      simp [notFree, notAvailable]
  | false =>
      cases isFree : line.isOf memFree with
      | true =>
          have notAvailable :=
            isOf_eq_false isFree (by decide : startsWith memFree memAvailable = false ∧ _)
          simp [notAvailable]
      | false => cases isAvailable : line.isOf memAvailable <;> simp [notCached]

/-- The line for what is cached reads what was assigned for what is total and free. -/
theorem scanMemLine_of_cached (cells : MemoryCells) {line : MemLine}
    (isCached : line.isOf cached = true) :
    (line.isOf memTotal = false ∧ line.isOf memFree = false ∧ line.isOf memAvailable = false) ∧
    scanMemLine cells line.text = cells.total.bind fun total => cells.free.bind fun free =>
      some { cells with used := some (total - free - line.bytes) } := by
  have notTotal := isOf_eq_false isCached (by decide : startsWith cached memTotal = false ∧ _)
  have notFree := isOf_eq_false isCached (by decide : startsWith cached memFree = false ∧ _)
  have notAvailable :=
    isOf_eq_false isCached (by decide : startsWith cached memAvailable = false ∧ _)
  refine ⟨⟨notTotal, notFree, notAvailable⟩, ?_⟩
  rw [scanMemLine_eq]
  simp [notTotal, notFree, notAvailable, isCached]

/-- A turn has no result exactly when it reads a variable that was not assigned. -/
theorem scanMemLine_text (cells : MemoryCells) (line : MemLine) :
    (scanMemLine cells line.text = none ↔
      line.isOf cached = true ∧ (cells.total = none ∨ cells.free = none)) ∧
    ∀ after, scanMemLine cells line.text = some after → Turn cells line after := by
  cases isCached : line.isOf cached with
  | false =>
      rw [scanMemLine_of_not_cached cells isCached]
      refine ⟨by simp, fun after step => ?_⟩
      obtain rfl := Option.some.inj step
      exact ⟨rfl, rfl, rfl, fun _ => rfl, fun isCached' => by simp [isCached] at isCached'⟩
  | true =>
      obtain ⟨⟨notTotal, notFree, notAvailable⟩, turn⟩ := scanMemLine_of_cached cells isCached
      rw [turn]
      cases total : cells.total with
      | none => exact ⟨by simp, fun after step => by cases step⟩
      | some total' =>
          cases free : cells.free with
          | none => exact ⟨by simp, fun after step => by cases step⟩
          | some free' =>
              refine ⟨by simp, fun after step => ?_⟩
              obtain rfl := Option.some.inj step
              exact ⟨by simp [notTotal, total], by simp [notFree, free], by simp [notAvailable],
                fun notCached => by simp [isCached] at notCached,
                fun _ => ⟨total', free', total, free, rfl⟩⟩

theorem turn_of_scan {cells after : MemoryCells} {line : MemLine}
    (step : scanMemLine cells line.text = some after) : Turn cells line after :=
  (scanMemLine_text cells line).2 after step

/-! ## The loop -/

/-- The loop over the lines. -/
def readLines (cells : MemoryCells) (lines : List MemLine) : Option MemoryCells :=
  (lines.map MemLine.text).foldlM scanMemLine cells

@[simp] theorem readLines_nil (cells : MemoryCells) : readLines cells [] = some cells := rfl

theorem readLines_append (cells : MemoryCells) (first second : List MemLine) :
    readLines cells (first ++ second) =
      (readLines cells first).bind fun middle => readLines middle second := by
  rw [readLines, List.map_append, List.foldlM_append]
  rfl

theorem readLines_singleton (cells : MemoryCells) (line : MemLine) :
    readLines cells [line] = scanMemLine cells line.text := by
  simp [readLines]

/-- The line that the code takes a figure from: the last that begins with its name. -/
def lastOf (key : Text) (lines : List MemLine) : Option MemLine :=
  (lines.filter (MemLine.isOf key)).getLast?

/-- A variable that only the lines for one name assign has the figure of the last of
them. -/
theorem last_assigned {observe : MemoryCells → Option UInt64} {key : Text}
    (assigns : ∀ {cells line after}, Turn cells line after →
      observe after = if line.isOf key then some line.bytes else observe cells)
    {cells after : MemoryCells} {lines : List MemLine}
    (read : readLines cells lines = some after) :
    observe after = ((lastOf key lines).map MemLine.bytes).or (observe cells) := by
  unfold lastOf
  induction lines using List.reverseRecOn generalizing after with
  | nil =>
      obtain rfl := Option.some.inj read
      simp
  | append_singleton lines line ih =>
      rw [readLines_append, Option.bind_eq_some_iff] at read
      obtain ⟨middle, first, last⟩ := read
      rw [readLines_singleton] at last
      rw [assigns (turn_of_scan last), ih first, List.filter_append]
      cases isOf : line.isOf key with
      | true => simp [isOf]
      | false => simp [isOf]

/-- Such a variable is assigned exactly when there is a line for its name. -/
theorem assigned_iff {observe : MemoryCells → Option UInt64} {key : Text}
    (assigns : ∀ {cells line after}, Turn cells line after →
      observe after = if line.isOf key then some line.bytes else observe cells)
    {cells after : MemoryCells} {lines : List MemLine} (unassigned : observe cells = none)
    (read : readLines cells lines = some after) :
    observe after ≠ none ↔ ∃ line ∈ lines, line.isOf key = true := by
  rw [last_assigned assigns read, unassigned, Option.or_none, ne_eq, Option.map_eq_none_iff,
    lastOf, List.getLast?_eq_none_iff, List.filter_eq_nil_iff]
  simp

/-- One that is assigned in the end has the figure of the last line that is taken for it. -/
theorem exists_lastOf {observe : MemoryCells → Option UInt64} {key : Text}
    (assigns : ∀ {cells line after}, Turn cells line after →
      observe after = if line.isOf key then some line.bytes else observe cells)
    {cells after : MemoryCells} {lines : List MemLine} (unassigned : observe cells = none)
    (read : readLines cells lines = some after) (assigned : observe after ≠ none) :
    ∃ line, lastOf key lines = some line ∧ observe after = some line.bytes := by
  have last := last_assigned assigns read
  rw [unassigned, Option.or_none] at last
  obtain ⟨bytes, there⟩ := Option.ne_none_iff_exists'.mp (last ▸ assigned)
  obtain ⟨line, found, rfl⟩ := Option.map_eq_some_iff.mp there
  exact ⟨line, found, last.trans there⟩

/-- Lines none of which is for what is cached leave `physical_used` alone. -/
theorem used_of_not_cached {cells after : MemoryCells} {lines : List MemLine}
    (none_cached : ∀ line ∈ lines, line.isOf cached = false)
    (read : readLines cells lines = some after) : after.used = cells.used := by
  induction lines using List.reverseRecOn generalizing after with
  | nil => exact Option.some.inj read ▸ rfl
  | append_singleton lines line ih =>
      rw [readLines_append, Option.bind_eq_some_iff] at read
      obtain ⟨middle, first, last⟩ := read
      rw [readLines_singleton] at last
      rw [(turn_of_scan last).other (none_cached line (by simp))]
      exact ih (fun other member => none_cached other (by simp [member])) first

/-- A line for what is cached assigns it for good. -/
theorem used_assigned {after : MemoryCells} {lines : List MemLine}
    (read : readLines {} lines = some after) :
    after.used ≠ none ↔ ∃ line ∈ lines, line.isOf cached = true := by
  induction lines using List.reverseRecOn generalizing after with
  | nil =>
      obtain rfl := Option.some.inj read
      simp
  | append_singleton lines line ih =>
      rw [readLines_append, Option.bind_eq_some_iff] at read
      obtain ⟨middle, first, last⟩ := read
      rw [readLines_singleton] at last
      have turn := turn_of_scan last
      cases isCached : line.isOf cached with
      | true =>
          obtain ⟨_, _, -, -, used⟩ := turn.used isCached
          exact iff_of_true (by simp [used]) ⟨line, by simp, isCached⟩
      | false =>
          rw [turn.other isCached, ih first]
          simp [isCached]

/-- Before each line for what is cached there is one for what is total and one for what is
free. -/
def CachedAfter (lines : List MemLine) : Prop :=
  ∀ before line after, lines = before ++ line :: after → line.isOf cached = true →
    (∃ other ∈ before, other.isOf memTotal = true) ∧ ∃ other ∈ before, other.isOf memFree = true

/-- The loop has a result exactly when this is so. -/
theorem readLines_ne_none_iff {lines : List MemLine} :
    readLines {} lines ≠ none ↔ CachedAfter lines := by
  constructor
  · rintro reads before line after rfl isCached
    obtain ⟨cells, read⟩ := Option.ne_none_iff_exists'.mp reads
    rw [readLines_append, Option.bind_eq_some_iff] at read
    obtain ⟨middle, first, rest⟩ := read
    rw [← List.singleton_append, readLines_append, Option.bind_eq_some_iff] at rest
    obtain ⟨next, step, -⟩ := rest
    rw [readLines_singleton] at step
    obtain ⟨total, free, hasTotal, hasFree, -⟩ := (turn_of_scan step).used isCached
    exact ⟨(assigned_iff Turn.total rfl first).mp (by simp [hasTotal]),
      (assigned_iff Turn.free rfl first).mp (by simp [hasFree])⟩
  · intro ordered
    induction lines using List.reverseRecOn with
    | nil => simp
    | append_singleton lines line ih =>
        have earlier : CachedAfter lines := by
          rintro before other after rfl isCached
          exact ordered before other (after ++ [line]) (by simp) isCached
        obtain ⟨middle, first⟩ := Option.ne_none_iff_exists'.mp (ih earlier)
        rw [readLines_append, first, Option.bind_some, readLines_singleton, ne_eq,
          (scanMemLine_text middle line).1]
        rintro ⟨isCached, unassigned⟩
        obtain ⟨hasTotal, hasFree⟩ := ordered lines line [] rfl isCached
        rcases unassigned with noTotal | noFree
        · exact (assigned_iff Turn.total rfl first).mpr hasTotal noTotal
        · exact (assigned_iff Turn.free rfl first).mpr hasFree noFree

/-! ## The figures -/

/-- The reported text for a number of kilobytes: megabytes, rounded down. -/
def megabytesOfKB (n : ℕ) : Text := decimal (n / 1024) ++ " mb".toList

/-- The text of a number of bytes is the one for the kilobytes when the megabytes are. -/
theorem megabytes_eq_iff {value : UInt64} {n : ℕ} :
    megabytes value = megabytesOfKB n ↔ value.toNat / 2 ^ 20 = n / 1024 := by
  have quotient : (value / 1024 / 1024).toNat = value.toNat / 2 ^ 20 := by
    rw [UInt64.toNat_div, UInt64.toNat_div]
    exact Nat.div_div_eq_div_mul value.toNat 1024 1024
  rw [megabytes, megabytesOfKB, List.append_cancel_right_eq, quotient]
  exact ⟨decimal_injective, congrArg decimal⟩

/-- A line has as many megabytes as it has kilobytes. -/
theorem MemLine.megabytes_bytes_iff {line : MemLine} {n : ℕ} :
    megabytes line.bytes = megabytesOfKB n ↔ line.number / 1024 = n / 1024 := by
  have same : 1024 * line.number / 2 ^ 20 = line.number / 1024 :=
    Nat.mul_div_mul_left line.number 1024 (by decide : 0 < 1024)
  rw [megabytes_eq_iff, line.toNat_bytes, same]

/-- One line for each of the four names. -/
structure OneEach (lines : List MemLine) (total free available cachedLine : MemLine) : Prop where
  total : lines.filter (MemLine.named memTotal) = [total]
  free : lines.filter (MemLine.named memFree) = [free]
  available : lines.filter (MemLine.named memAvailable) = [available]
  cached : lines.filter (MemLine.named Linux.cached) = [cachedLine]

/-- The getter reads assigned variables only. With one line of each name, and no more
free and cached than total, it reports the figures of the file. -/
structure MemoryFaithful (lines : List MemLine) : Prop where
  assigned : getMemoryInfo (some (lines.map MemLine.text)) ≠ none
  figures : ∀ total free available cachedLine, OneEach lines total free available cachedLine →
    free.number + cachedLine.number ≤ total.number →
    getMemoryInfo (some (lines.map MemLine.text)) = some {
      physicalUsed := megabytesOfKB (total.number - free.number - cachedLine.number)
      physicalAvailable := megabytesOfKB available.number
      physicalFree := megabytesOfKB free.number
      physicalTotal := megabytesOfKB total.number }

/-- The lines that are taken for the figures come to the megabytes of the given lines. What is
used comes from the last line that is taken for what is cached and from the lines that are taken
for what is total and free above it, in arithmetic modulo `2 ^ 64`. -/
structure SameMegabytes (lines : List MemLine) (total free available cachedLine : MemLine) :
    Prop where
  ofTotal : ∀ line, lastOf memTotal lines = some line → line.number / 1024 = total.number / 1024
  ofFree : ∀ line, lastOf memFree lines = some line → line.number / 1024 = free.number / 1024
  ofAvailable : ∀ line, lastOf memAvailable lines = some line →
    line.number / 1024 = available.number / 1024
  ofUsed : ∀ before line after totalLine freeLine, lines = before ++ line :: after →
    line.isOf cached = true → (∀ other ∈ after, other.isOf cached = false) →
    lastOf memTotal before = some totalLine → lastOf memFree before = some freeLine →
    (totalLine.bytes - freeLine.bytes - line.bytes).toNat / 2 ^ 20 =
      (total.number - free.number - cachedLine.number) / 1024

/-- Where the file has one line of each name, the lines that are taken come to the same. -/
def FiguresKept (lines : List MemLine) : Prop :=
  ∀ total free available cachedLine, OneEach lines total free available cachedLine →
    free.number + cachedLine.number ≤ total.number →
    SameMegabytes lines total free available cachedLine

/-- A line is taken for each of the four figures, and before each that is taken for what is
cached one for what is total and one for what is free. -/
structure WellOrdered (lines : List MemLine) : Prop where
  total : ∃ line ∈ lines, line.isOf memTotal = true
  free : ∃ line ∈ lines, line.isOf memFree = true
  available : ∃ line ∈ lines, line.isOf memAvailable = true
  cached : ∃ line ∈ lines, line.isOf cached = true
  ordered : CachedAfter lines

/-- There is a result exactly when the four variables are assigned in the end. -/
theorem getMemoryInfo_ne_none_iff {lines : List MemLine} :
    getMemoryInfo (some (lines.map MemLine.text)) ≠ none ↔ ∃ cells,
      readLines {} lines = some cells ∧ cells.total ≠ none ∧ cells.free ≠ none ∧
        cells.available ≠ none ∧ cells.used ≠ none := by
  simp only [getMemoryInfo, Option.bind_eq_bind, Option.ne_none_iff_exists',
    Option.bind_eq_some_iff]
  constructor
  · rintro ⟨info, cells, read, total, isTotal, available, isAvailable, free, isFree, used, isUsed, -⟩
    exact ⟨cells, read, ⟨total, isTotal⟩, ⟨free, isFree⟩, ⟨available, isAvailable⟩, used, isUsed⟩
  · rintro ⟨cells, read, ⟨total, isTotal⟩, ⟨free, isFree⟩, ⟨available, isAvailable⟩, used, isUsed⟩
    exact ⟨_, cells, read, total, isTotal, available, isAvailable, free, isFree, used, isUsed, rfl⟩

theorem getMemoryInfo_assigned_iff {lines : List MemLine} :
    getMemoryInfo (some (lines.map MemLine.text)) ≠ none ↔ WellOrdered lines := by
  rw [getMemoryInfo_ne_none_iff]
  constructor
  · rintro ⟨cells, read, total, free, available, used⟩
    exact ⟨(assigned_iff Turn.total rfl read).mp total, (assigned_iff Turn.free rfl read).mp free,
      (assigned_iff Turn.available rfl read).mp available, (used_assigned read).mp used,
      readLines_ne_none_iff.mp (by simp [read])⟩
  · intro ordered
    obtain ⟨cells, read⟩ :=
      Option.ne_none_iff_exists'.mp (readLines_ne_none_iff.mpr ordered.ordered)
    exact ⟨cells, read, (assigned_iff Turn.total rfl read).mpr ordered.total,
      (assigned_iff Turn.free rfl read).mpr ordered.free,
      (assigned_iff Turn.available rfl read).mpr ordered.available,
      (used_assigned read).mpr ordered.cached⟩

/-- Of the lines that are taken for a name, one is the last. -/
theorem exists_last {key : Text} {lines : List MemLine}
    (found : ∃ line ∈ lines, line.isOf key = true) :
    ∃ before line after, lines = before ++ line :: after ∧ line.isOf key = true ∧
      ∀ other ∈ after, other.isOf key = false := by
  induction lines using List.reverseRecOn with
  | nil => simp at found
  | append_singleton lines line ih =>
      cases isOf : line.isOf key with
      | true => exact ⟨lines, line, [], rfl, isOf, by simp⟩
      | false =>
          obtain ⟨other, member, begins⟩ := found
          have earlier : other ∈ lines := by
            rcases List.mem_append.mp member with earlier | last
            · exact earlier
            · obtain rfl := List.mem_singleton.mp last
              simp [isOf] at begins
          obtain ⟨before, last, after, rfl, isLast, none_after⟩ := ih ⟨other, earlier, begins⟩
          refine ⟨before, last, after ++ [line], by simp, isLast, fun other member => ?_⟩
          rcases List.mem_append.mp member with inAfter | last
          · exact none_after other inAfter
          · obtain rfl := List.mem_singleton.mp last
            exact isOf

/-- What is used comes from the last line that is taken for what is cached, and from what was
total and free when it was met. -/
theorem used_of_last {before after : List MemLine} {line : MemLine} {cells : MemoryCells}
    (isCached : line.isOf cached = true) (none_after : ∀ other ∈ after, other.isOf cached = false)
    (read : readLines {} (before ++ line :: after) = some cells) :
    ∃ totalLine freeLine, lastOf memTotal before = some totalLine ∧
      lastOf memFree before = some freeLine ∧
      cells.used = some (totalLine.bytes - freeLine.bytes - line.bytes) := by
  rw [readLines_append, Option.bind_eq_some_iff] at read
  obtain ⟨middle, first, rest⟩ := read
  rw [← List.singleton_append, readLines_append, Option.bind_eq_some_iff] at rest
  obtain ⟨next, step, last⟩ := rest
  rw [readLines_singleton] at step
  obtain ⟨total, free, isTotal, isFree, used⟩ := (turn_of_scan step).used isCached
  obtain ⟨totalLine, lastTotal, totalBytes⟩ :=
    exists_lastOf Turn.total rfl first (by simp [isTotal])
  obtain ⟨freeLine, lastFree, freeBytes⟩ := exists_lastOf Turn.free rfl first (by simp [isFree])
  obtain rfl := Option.some.inj (isTotal.symm.trans totalBytes)
  obtain rfl := Option.some.inj (isFree.symm.trans freeBytes)
  exact ⟨totalLine, freeLine, lastTotal, lastFree, (used_of_not_cached none_after last).trans used⟩

/-- The texts for what the variables hold in the end. -/
theorem getMemoryInfo_of_read {lines : List MemLine} {cells : MemoryCells}
    {total free available used : UInt64} (read : readLines {} lines = some cells)
    (isTotal : cells.total = some total) (isFree : cells.free = some free)
    (isAvailable : cells.available = some available) (isUsed : cells.used = some used) :
    getMemoryInfo (some (lines.map MemLine.text)) = some {
      physicalUsed := megabytes used
      physicalAvailable := megabytes available
      physicalFree := megabytes free
      physicalTotal := megabytes total } := by
  change (readLines {} lines).bind _ = _
  rw [read, Option.bind_some]
  simp [isTotal, isFree, isAvailable, isUsed]

/-- Of a file in order the figures of four lines are reported exactly when the lines that are
taken come to the same megabytes. -/
theorem figures_iff {lines : List MemLine} (ordered : WellOrdered lines)
    (total free available cachedLine : MemLine) :
    getMemoryInfo (some (lines.map MemLine.text)) = some {
        physicalUsed := megabytesOfKB (total.number - free.number - cachedLine.number)
        physicalAvailable := megabytesOfKB available.number
        physicalFree := megabytesOfKB free.number
        physicalTotal := megabytesOfKB total.number } ↔
      SameMegabytes lines total free available cachedLine := by
  obtain ⟨cells, read, hasTotal, hasFree, hasAvailable, -⟩ :=
    getMemoryInfo_ne_none_iff.mp (getMemoryInfo_assigned_iff.mpr ordered)
  obtain ⟨lastTotal, foundTotal, isTotal⟩ := exists_lastOf Turn.total rfl read hasTotal
  obtain ⟨lastFree, foundFree, isFree⟩ := exists_lastOf Turn.free rfl read hasFree
  obtain ⟨lastAvailable, foundAvailable, isAvailable⟩ :=
    exists_lastOf Turn.available rfl read hasAvailable
  obtain ⟨before, lastCached, after, split, isCached, none_after⟩ := exists_last ordered.cached
  obtain ⟨totalLine, freeLine, aboveTotal, aboveFree, isUsed⟩ :=
    used_of_last isCached none_after (split ▸ read)
  rw [getMemoryInfo_of_read read isTotal isFree isAvailable isUsed, Option.some.injEq,
    MemoryInfo.mk.injEq, megabytes_eq_iff, MemLine.megabytes_bytes_iff,
    MemLine.megabytes_bytes_iff, MemLine.megabytes_bytes_iff]
  constructor
  · rintro ⟨used, sameAvailable, sameFree, sameTotal⟩
    refine ⟨?_, ?_, ?_, ?_⟩
    · intro line last
      obtain rfl := Option.some.inj (foundTotal.symm.trans last)
      exact sameTotal
    · intro line last
      obtain rfl := Option.some.inj (foundFree.symm.trans last)
      exact sameFree
    · intro line last
      obtain rfl := Option.some.inj (foundAvailable.symm.trans last)
      exact sameAvailable
    · intro before' line after' totalLine' freeLine' split' isCached' none_after' above above'
      obtain ⟨_, _, sameAbove, sameAbove', isUsed'⟩ :=
        used_of_last isCached' none_after' (split' ▸ read)
      obtain rfl := Option.some.inj (above.symm.trans sameAbove)
      obtain rfl := Option.some.inj (above'.symm.trans sameAbove')
      rw [Option.some.inj (isUsed'.symm.trans isUsed)]
      exact used
  · intro same
    exact ⟨same.ofUsed before lastCached after totalLine freeLine split isCached none_after
      aboveTotal aboveFree, same.ofAvailable _ foundAvailable, same.ofFree _ foundFree,
      same.ofTotal _ foundTotal⟩

/-- A line with a name, a blank and a small number. -/
def memLine (name : Text) (number : ℕ) (noColon : ':' ∉ name) (small : number < 2 ^ 54) :
    MemLine where
  name := name
  padding := [' ']
  number := number
  noColon := noColon
  blank := List.all_eq_true.mp (by decide)
  small := by omega

/-- A longer name after `MemTotal` takes its place. -/
example : ¬ FiguresKept [memLine memTotal 4000000 (by decide) (by decide),
    memLine memFree 1000000 (by decide) (by decide),
    memLine memAvailable 2000000 (by decide) (by decide),
    memLine cached 500000 (by decide) (by decide),
    memLine "MemTotalExtra".toList 1024 (by decide) (by decide)] := by
  intro kept
  have same := kept _ _ _ _ ⟨rfl, rfl, rfl, rfl⟩ (by decide)
  exact absurd (same.ofTotal _ rfl) (by decide)

/-! ## Files without longer names -/

/-- A line that begins with one of the four names has that name. -/
def PlainNames (lines : List MemLine) : Prop :=
  ∀ key ∈ [memTotal, memFree, memAvailable, cached], ∀ line ∈ lines,
    line.isOf key = true → line.name = key

/-- The line that is taken for a name is then the one that has it. -/
theorem eq_of_taken {key : Text} (isKey : key ∈ [memTotal, memFree, memAvailable, cached])
    {lines : List MemLine} (plain : PlainNames lines) {only line : MemLine}
    (one : lines.filter (MemLine.named key) = [only]) (member : line ∈ lines)
    (isOf : line.isOf key = true) : line = only := by
  have found : line ∈ lines.filter (MemLine.named key) :=
    List.mem_filter.mpr ⟨member, decide_eq_true (plain key isKey line member isOf)⟩
  exact List.mem_singleton.mp (one ▸ found)

theorem mem_of_lastOf {key : Text} {lines : List MemLine} {line : MemLine}
    (last : lastOf key lines = some line) : line ∈ lines ∧ line.isOf key = true :=
  List.mem_filter.mp (List.mem_of_getLast? last)

/-- Nothing wraps when no more is free and cached than there is. -/
theorem toNat_used {total free cachedLine : MemLine}
    (enough : free.number + cachedLine.number ≤ total.number) :
    (total.bytes - free.bytes - cachedLine.bytes).toNat =
      1024 * (total.number - free.number - cachedLine.number) := by
  have first : free.bytes ≤ total.bytes := by
    rw [UInt64.le_iff_toNat_le, free.toNat_bytes, total.toNat_bytes]
    omega
  have difference : (total.bytes - free.bytes).toNat = 1024 * (total.number - free.number) := by
    rw [UInt64.toNat_sub_of_le _ _ first, free.toNat_bytes, total.toNat_bytes, Nat.mul_sub]
  have second : cachedLine.bytes ≤ total.bytes - free.bytes := by
    rw [UInt64.le_iff_toNat_le, cachedLine.toNat_bytes, difference]
    omega
  rw [UInt64.toNat_sub_of_le _ _ second, difference, cachedLine.toNat_bytes, ← Nat.mul_sub]

/-- **Without longer names the order of the lines is all that matters.** -/
theorem figuresKept_of_plainNames {lines : List MemLine} (plain : PlainNames lines) :
    FiguresKept lines := by
  intro total free available cachedLine one enough
  refine ⟨?_, ?_, ?_, ?_⟩
  · intro line last
    obtain ⟨member, isOf⟩ := mem_of_lastOf last
    rw [eq_of_taken (by simp) plain one.total member isOf]
  · intro line last
    obtain ⟨member, isOf⟩ := mem_of_lastOf last
    rw [eq_of_taken (by simp) plain one.free member isOf]
  · intro line last
    obtain ⟨member, isOf⟩ := mem_of_lastOf last
    rw [eq_of_taken (by simp) plain one.available member isOf]
  · rintro before line after totalLine freeLine rfl isCached - aboveTotal aboveFree
    obtain ⟨totalMember, isTotal⟩ := mem_of_lastOf aboveTotal
    obtain ⟨freeMember, isFree⟩ := mem_of_lastOf aboveFree
    rw [eq_of_taken (by simp) plain one.total (List.mem_append_left _ totalMember) isTotal,
      eq_of_taken (by simp) plain one.free (List.mem_append_left _ freeMember) isFree,
      eq_of_taken (by simp) plain one.cached (by simp) isCached, toNat_used enough]
    exact Nat.mul_div_mul_left _ 1024 (by decide : 0 < 1024)

end Linux

end DslinkSystem
