import DslinkSystem.Library.TextScan

/-!
# Reading a stream line by line

`getline` reads a line with its newline, of any length. `fgets` reads at most as many
characters as its buffer holds besides the terminator, and no further than a newline. Both read
nothing at the end of the stream, which ends a loop of such calls.

The calls that such a loop makes are one for each line with `getline` (`readAll_getline`), and
with `fgets` one more for each time that the line fills the buffer (`length_readAll_fgets`).
-/

set_option autoImplicit false

namespace TextScan

/-- A function that reads from a stream. At the end it reads nothing, and else what it leaves is
less. -/
structure Reader where
  read : Text → Option (Text × Text)
  consumes : ∀ {stream chunk rest : Text}, read stream = some (chunk, rest) →
    rest.length < stream.length

namespace Reader

/-- What the calls of a loop read until one reads nothing. -/
def readAll (reader : Reader) (stream : Text) : List Text :=
  match _call : reader.read stream with
  | none => []
  | some (chunk, rest) => chunk :: reader.readAll rest
termination_by stream.length
decreasing_by exact reader.consumes _call

variable {reader : Reader} {stream chunk rest : Text}

theorem readAll_of_none (call : reader.read stream = none) : reader.readAll stream = [] := by
  rw [readAll]
  split
  · rfl
  · next other =>
      rw [call] at other
      cases other

theorem readAll_of_some (call : reader.read stream = some (chunk, rest)) :
    reader.readAll stream = chunk :: reader.readAll rest := by
  rw [readAll]
  split
  · next other =>
      rw [call] at other
      cases other
  · next other =>
      rw [call] at other
      obtain ⟨rfl, rfl⟩ := Prod.mk.inj (Option.some.inj other)
      rfl

end Reader

/-! ## Lines of bounded length -/

/-- The first characters of a stream, no more than a limit and no further than a newline. -/
def takeLine : ℕ → Text → Text
  | 0, _ => []
  | _ + 1, [] => []
  | limit + 1, c :: rest => if c = '\n' then [c] else c :: takeLine limit rest

/-- What is read up to a limit, and what is left. -/
def readUpTo (limit : ℕ) (stream : Text) : Option (Text × Text) :=
  if stream = [] then none
  else some (takeLine limit stream, stream.drop (takeLine limit stream).length)

theorem takeLine_ne_nil {limit : ℕ} {stream : Text} (positive : 0 < limit) (there : stream ≠ []) :
    takeLine limit stream ≠ [] := by
  cases limit with
  | zero => exact absurd positive (Nat.lt_irrefl 0)
  | succ limit =>
      cases stream with
      | nil => exact absurd rfl there
      | cons c rest =>
          rw [takeLine]
          split
          · exact List.cons_ne_nil _ _
          · exact List.cons_ne_nil _ _

theorem readUpTo_consumes {limit : ℕ} {stream chunk rest : Text} (positive : 0 < limit)
    (call : readUpTo limit stream = some (chunk, rest)) : rest.length < stream.length := by
  by_cases atEnd : stream = []
  · rw [readUpTo, if_pos atEnd] at call
    cases call
  · rw [readUpTo, if_neg atEnd] at call
    obtain ⟨-, rfl⟩ := Prod.mk.inj (Option.some.inj call)
    have some_read := List.length_pos_of_ne_nil (takeLine_ne_nil positive atEnd)
    have some_left := List.length_pos_of_ne_nil atEnd
    rw [List.length_drop]
    omega

/-- `fgets` with a buffer for some characters and the terminator. -/
def fgets (characters : ℕ) (positive : 0 < characters) : Reader where
  read := readUpTo characters
  consumes := readUpTo_consumes positive

/-- `getline`, whose buffer grows as needed. -/
def getline : Reader where
  read stream := readUpTo stream.length stream
  consumes := by
    intro stream chunk rest call
    by_cases atEnd : stream = []
    · rw [readUpTo, if_pos atEnd] at call
      cases call
    · exact readUpTo_consumes (List.length_pos_of_ne_nil atEnd) call

/-! ## Lines of a text -/

/-- A line, without its newline. -/
structure Line where
  chars : Text
  oneLine : '\n' ∉ chars

/-- Lines with a newline after each. -/
def linesText (lines : List Line) : Text := lines.flatMap fun line => line.chars ++ ['\n']

/-- A line that fits is read with its newline. -/
theorem takeLine_of_lt {limit : ℕ} {line : Text} (oneLine : '\n' ∉ line)
    (fits : line.length < limit) (rest : Text) :
    takeLine limit (line ++ '\n' :: rest) = line ++ ['\n'] := by
  induction line generalizing limit with
  | nil =>
      obtain ⟨limit, rfl⟩ := Nat.exists_eq_succ_of_ne_zero (Nat.ne_of_gt fits)
      simp [takeLine]
  | cons c line ih =>
      obtain ⟨limit, rfl⟩ := Nat.exists_eq_succ_of_ne_zero (Nat.ne_of_gt (Nat.zero_lt_of_lt fits))
      have other : c ≠ '\n' := fun same => oneLine (same ▸ List.mem_cons_self)
      have later : '\n' ∉ line := fun member => oneLine (List.mem_cons_of_mem _ member)
      rw [List.cons_append, takeLine, if_neg other, ih later (Nat.lt_of_succ_lt_succ fits),
        List.cons_append]

/-- Of a line that does not fit as much is read as does. -/
theorem takeLine_of_le {limit : ℕ} {line : Text} (oneLine : '\n' ∉ line)
    (full : limit ≤ line.length) (rest : Text) :
    takeLine limit (line ++ rest) = line.take limit := by
  induction line generalizing limit with
  | nil =>
      obtain rfl := Nat.le_zero.mp full
      rfl
  | cons c line ih =>
      cases limit with
      | zero => rfl
      | succ limit =>
          have other : c ≠ '\n' := fun same => oneLine (same ▸ List.mem_cons_self)
          have later : '\n' ∉ line := fun member => oneLine (List.mem_cons_of_mem _ member)
          rw [List.cons_append, takeLine, if_neg other, ih later (Nat.le_of_succ_le_succ full),
            List.take_succ_cons]

/-- A call reads a line that fits with its newline. -/
theorem readUpTo_of_lt {limit : ℕ} {line : Text} (oneLine : '\n' ∉ line)
    (fits : line.length < limit) (rest : Text) :
    readUpTo limit (line ++ '\n' :: rest) = some (line ++ ['\n'], rest) := by
  rw [readUpTo, if_neg (by simp), takeLine_of_lt oneLine fits]
  simp

/-- A call fills its buffer with a line that does not fit. -/
theorem readUpTo_of_le {limit : ℕ} {line : Text} (oneLine : '\n' ∉ line)
    (full : limit ≤ line.length) (rest : Text) :
    readUpTo limit (line ++ '\n' :: rest) =
      some (line.take limit, line.drop limit ++ '\n' :: rest) := by
  rw [readUpTo, if_neg (by simp), takeLine_of_le oneLine full, List.length_take,
    Nat.min_eq_left full, List.drop_append_of_le_length full]

/-- **`getline` reads the lines** of a text. -/
theorem readAll_getline (lines : List Line) :
    getline.readAll (linesText lines) = lines.map fun line => line.chars ++ ['\n'] := by
  induction lines with
  | nil => exact Reader.readAll_of_none rfl
  | cons line lines ih =>
      have text : linesText (line :: lines) = line.chars ++ '\n' :: linesText lines := by
        simp [linesText]
      have call : getline.read (linesText (line :: lines)) =
          some (line.chars ++ ['\n'], linesText lines) := by
        rw [text]
        exact readUpTo_of_lt line.oneLine (by simp) _
      rw [Reader.readAll_of_some call, ih, List.map_cons]

/-- The calls of `fgets` for one line: one for each full buffer, and one for what is left of the
line with its newline. -/
theorem length_readAll_line {characters : ℕ} (positive : 0 < characters) {line : Text}
    (oneLine : '\n' ∉ line) (rest : Text) :
    ((fgets characters positive).readAll (line ++ '\n' :: rest)).length =
      line.length / characters + 1 + ((fgets characters positive).readAll rest).length := by
  induction length : line.length using Nat.strongRecOn generalizing line with
  | ind n ih =>
      by_cases fits : line.length < characters
      · have call : (fgets characters positive).read (line ++ '\n' :: rest) = _ :=
          readUpTo_of_lt oneLine fits rest
        rw [Reader.readAll_of_some call, List.length_cons, ← length, Nat.div_eq_of_lt fits]
        omega
      · have full : characters ≤ line.length := Nat.not_lt.mp fits
        have call : (fgets characters positive).read (line ++ '\n' :: rest) = _ :=
          readUpTo_of_le oneLine full rest
        have later : '\n' ∉ line.drop characters := fun member =>
          oneLine (List.mem_of_mem_drop member)
        have shorter : (line.drop characters).length < n := by
          rw [List.length_drop]
          omega
        have split : line.length / characters = (line.length - characters) / characters + 1 :=
          Nat.div_eq_sub_div positive full
        rw [Reader.readAll_of_some call, List.length_cons, ih _ shorter later rfl,
          List.length_drop, ← length, split]
        omega

/-- **The calls of `fgets`** for the lines of a text. -/
theorem length_readAll_fgets {characters : ℕ} (positive : 0 < characters) (lines : List Line) :
    ((fgets characters positive).readAll (linesText lines)).length =
      (lines.map fun line => line.chars.length / characters + 1).sum := by
  induction lines with
  | nil => rw [Reader.readAll_of_none rfl]; rfl
  | cons line lines ih =>
      have text : linesText (line :: lines) = line.chars ++ '\n' :: linesText lines := by
        simp [linesText]
      rw [text, length_readAll_line positive line.oneLine, ih, List.map_cons, List.sum_cons]

/-- There are as many calls as lines exactly when each line fits, and more otherwise. -/
theorem sum_calls {characters : ℕ} (positive : 0 < characters) (lines : List Line) :
    lines.length ≤ (lines.map fun line => line.chars.length / characters + 1).sum ∧
      ((lines.map fun line => line.chars.length / characters + 1).sum = lines.length ↔
        ∀ line ∈ lines, line.chars.length < characters) := by
  induction lines with
  | nil => simp
  | cons line lines ih =>
      obtain ⟨atLeast, equal_iff⟩ := ih
      rw [List.map_cons, List.sum_cons, List.length_cons, List.forall_mem_cons, ← equal_iff,
        ← Nat.div_eq_zero_iff_lt positive]
      generalize line.chars.length / characters = full
      omega

end TextScan
