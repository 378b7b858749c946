import DslinkSystem.Info.Pipes
import DslinkSystem.Library.LineReaders

/-!
# Counting processes on Linux and Windows

`get_process_count` counts the lines that a command writes. On Linux a loop of `getline` reads
them, on Windows a loop of `fgets` into a buffer of 128 characters, which takes a longer line in
several calls.

Both loops end with the number of lines exactly when no line has more than 126 characters before
its newline, and the number fits in the counter (`process_counts_agree_iff`).
-/

set_option autoImplicit false

namespace DslinkSystem

open TextScan

/-- `count++`, for an `int`. There is no result when it overflows. -/
def increment (count : ℕ) : Option ℕ := if count + 1 < 2 ^ 31 then some (count + 1) else none

/-- The number of the calls of a loop. -/
def countCalls (reader : Reader) (stream : Text) : Option ℕ :=
  (reader.readAll stream).foldlM (fun count _ => increment count) 0

/-- The loop of `info::system::get_process_count()`. -/
def Linux.countLines (stream : Text) : Option ℕ := countCalls getline stream

/-- The loop of `info::system::get_process_count()` in `info_win.cc`, with `char line[128]`. -/
def Windows.countLines (stream : Text) : Option ℕ := countCalls (fgets 127 (by decide)) stream

/-- `info::system::get_process_count()` in `info_win.cc`, for what `_popen` gives. -/
def Windows.getProcessCount (outcome : Option Text) : Option Text :=
  match outcome with
  | none => some "0".toList
  | some stream => (Windows.countLines stream).map decimal

/-! ## The loops -/

/-- The counter ends with the number of the calls unless it overflows. -/
theorem foldlM_increment (chunks : List Text) {count : ℕ} (small : count < 2 ^ 31) :
    chunks.foldlM (fun count _ => increment count) count =
      if count + chunks.length < 2 ^ 31 then some (count + chunks.length) else none := by
  induction chunks generalizing count with
  | nil =>
      rw [List.length_nil, Nat.add_zero, if_pos small]
      rfl
  | cons chunk chunks ih =>
      rw [List.foldlM_cons, List.length_cons, increment]
      by_cases next : count + 1 < 2 ^ 31
      · rw [if_pos next, Option.bind_eq_bind, Option.bind_some, ih next]
        simp only [Nat.add_assoc, Nat.add_comm 1]
      · rw [if_neg next, if_neg (by omega)]
        rfl

/-- A loop ends with a number exactly when it makes so many calls, and the number is small. -/
theorem countCalls_eq_some_iff {reader : Reader} {stream : Text} {n : ℕ} :
    countCalls reader stream = some n ↔ (reader.readAll stream).length = n ∧ n < 2 ^ 31 := by
  rw [countCalls, foldlM_increment _ (by decide), Nat.zero_add]
  constructor
  · intro counted
    by_cases small : (reader.readAll stream).length < 2 ^ 31
    · rw [if_pos small, Option.some.injEq] at counted
      exact ⟨counted, counted ▸ small⟩
    · rw [if_neg small] at counted
      cases counted
  · rintro ⟨rfl, small⟩
    rw [if_pos small]

/-- The loop of Linux counts the lines. -/
theorem Linux.countLines_eq_some_iff (lines : List Line) :
    countLines (linesText lines) = some lines.length ↔ lines.length < 2 ^ 31 := by
  rw [countLines, countCalls_eq_some_iff, readAll_getline, List.length_map]
  simp

/-- The loop of Windows counts the lines that fit. -/
theorem Windows.countLines_eq_some_iff (lines : List Line) :
    countLines (linesText lines) = some lines.length ↔
      (∀ line ∈ lines, line.chars.length < 127) ∧ lines.length < 2 ^ 31 := by
  rw [countLines, countCalls_eq_some_iff, length_readAll_fgets, (sum_calls (by decide) lines).2]

/-- The getter of Linux returns what its loop counts, for the lines that `getline` reads. -/
theorem Linux.getProcessCount_of_countLines {stream : Text} {n : ℕ}
    (counted : countLines stream = some n) (pipes : ℕ) :
    (getProcessCount (some (getline.readAll stream)) pipes).1 = decimal n := by
  obtain ⟨calls, small⟩ := countCalls_eq_some_iff.mp counted
  have returned : (getProcessCount (some (getline.readAll stream)) pipes).1 =
      signedDecimal (Int32.ofNat (getline.readAll stream).length).toInt := rfl
  rw [returned, calls, signedDecimal_eq_decimal_iff]
  exact Int32.toInt_ofNat_of_lt small

/-- The getter of Windows returns what its loop counts. -/
theorem Windows.getProcessCount_of_countLines {stream : Text} {n : ℕ}
    (counted : countLines stream = some n) : getProcessCount (some stream) = some (decimal n) := by
  rw [getProcessCount, counted, Option.map_some]

/-! ## When the counts agree -/

/-- **When both loops count the lines**: exactly when each line has at most 126 characters, and
there are fewer than `2 ^ 31` lines. -/
theorem process_counts_agree_iff (lines : List Line) :
    Windows.countLines (linesText lines) = some lines.length ∧
        Linux.countLines (linesText lines) = some lines.length ↔
      (∀ line ∈ lines, line.chars.length ≤ 126) ∧ lines.length < 2 ^ 31 := by
  rw [Windows.countLines_eq_some_iff, Linux.countLines_eq_some_iff]
  constructor
  · rintro ⟨⟨fit, small⟩, -⟩
    exact ⟨fun line member => Nat.le_of_lt_succ (fit line member), small⟩
  · rintro ⟨fit, small⟩
    exact ⟨⟨fun line member => Nat.lt_succ_of_le (fit line member), small⟩, small⟩

/-- A line that fills the buffer of Windows. -/
def longLine : Line where
  chars := List.replicate 127 'x'
  oneLine member := absurd (List.eq_of_mem_replicate member) (by decide)

/-- Windows counts a long line twice. -/
theorem process_counts_differ :
    ¬ ∀ lines : List Line, Windows.countLines (linesText lines) = some lines.length ∧
      Linux.countLines (linesText lines) = some lines.length := by
  intro every
  have fit := ((Windows.countLines_eq_some_iff [longLine]).mp (every [longLine]).1).1
  have short := fit longLine (List.mem_singleton_self longLine)
  rw [longLine, List.length_replicate] at short
  omega

end DslinkSystem
