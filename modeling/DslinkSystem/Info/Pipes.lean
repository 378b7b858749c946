import DslinkSystem.Info.CpuInfo
import DslinkSystem.Library.EventRuns

/-!
# Getters that read the output of a command

Five getters read what a command writes, through a pipe that `popen` opens and `pclose`
closes. Here they are run with the number of open pipes. What `popen` gives is a
parameter: nothing, when it fails, or the lines that the command writes.

Each call opens a pipe unless `popen` fails, and closes it on some of its exits only
(`openAfter_eq`). No call of a sequence leaves a pipe open exactly when each of them takes
such an exit (`pipes_balanced_iff`), and the number of pipes left open is the number of the
calls that do not (`run_pipeMachine`).
-/

set_option autoImplicit false

namespace DslinkSystem

open TextScan EventRuns

/-- A computation that opens and closes pipes. -/
abbrev WithPipes := StateM ℕ

/-- What `popen` gives: nothing, or the lines that can be read, with their newlines. -/
abbrev PopenOutcome := Option (List Text)

/-- `popen(command, "r")`. -/
def popen (outcome : PopenOutcome) : WithPipes PopenOutcome := do
  if outcome.isSome then modify (· + 1)
  return outcome

/-- `pclose(data)`. -/
def pclose : WithPipes Unit := modify (· - 1)

namespace Linux

/-- `"°C"`, in bytes. -/
def degrees : Text := ['\u00c2', '\u00b0', 'C']

/-- `info::system::get_open_files()`. -/
def getOpenFiles (outcome : PopenOutcome) : WithPipes Text := do
  match ← popen outcome with
  | none => return "0".toList
  | some (line :: _) =>
      let value := (strtoul (cString line)).value
      pclose
      return decimal value.toNat
  | some [] => return "0".toList

/-- `info::system::get_process_count()`. -/
def getProcessCount (outcome : PopenOutcome) : WithPipes Text := do
  match ← popen outcome with
  | none => return "0".toList
  | some lines => return signedDecimal (Int32.ofNat lines.length).toInt

/-- The line that the loop of `get_cpu_temp` looks for. -/
def isPackageLine (line : Text) : Bool := startsWith "Physical id 0".toList (cString line)

/-- The loop of `get_cpu_temp`. Its pointer is never beyond the end of the line, which is taken as
a whole without a colon (`next`). -/
def findTemp : List Text → WithPipes Text
  | [] => return "0.0".toList ++ degrees
  | line :: lines => do
      let test := cString line
      let value := (strtoul (test.drop (next (findFirstOf [':'] test)))).value
      if isPackageLine line then
        pclose
        return decimal value.toNat ++ degrees
      else findTemp lines

/-- `info::cpu::get_cpu_temp()`. -/
def getCpuTemp (outcome : PopenOutcome) : WithPipes Text := do
  match ← popen outcome with
  | none => return "0.0".toList ++ degrees
  | some lines => findTemp lines

end Linux

namespace MacOS

/-- `get_macos_info(input)`, for what `popen` gives for that command. -/
def getMacosInfo (outcome : PopenOutcome) : WithPipes Text := do
  match ← popen outcome with
  | none => return "NA".toList
  | some (line :: _) => return line.filter (· ≠ '\n')
  | some [] => return "NA".toList

/-- `free_pages` and `speculative_pages`: what was assigned to them, if anything. -/
structure PageCells where
  freePages : Option Int64 := none
  speculativePages : Option Int64 := none
  deriving DecidableEq, Repr

/-- One turn of the loop over the lines of `vm_stat`. Without a colon the whole line is read
(`next`). -/
def scanPageLine (cells : PageCells) (line : Text) : PageCells :=
  let test := cString line
  let value := (strtoul (test.drop (next (findFirstOf [':'] test)))).value
  if startsWith "Pages free".toList test then
    { cells with freePages := some value.toInt64 }
  else if startsWith "Pages speculative".toList test then
    { cells with speculativePages := some value.toInt64 }
  else cells

/-- `info::system::get_free_memory()`. There is no text when a variable is read that was
not assigned. -/
def getFreeMemory (outcome : PopenOutcome) : WithPipes (Option Text) := do
  match ← popen outcome with
  | none => return some "NA".toList
  | some lines =>
      let cells := lines.foldl scanPageLine {}
      return do
        let freePages ← cells.freePages
        let speculativePages ← cells.speculativePages
        let megabytes := (freePages + speculativePages) * 4096 / 1024 / 1024
        return signedDecimal megabytes.toInt ++ " MByte".toList

end MacOS

/-! ## Calls -/

/-- A call of one of the getters, with what `popen` gives. -/
inductive PipeCall where
  | openFiles (outcome : PopenOutcome)
  | processCount (outcome : PopenOutcome)
  | cpuTemp (outcome : PopenOutcome)
  | macosInfo (outcome : PopenOutcome)
  | freeMemory (outcome : PopenOutcome)
  deriving DecidableEq, Repr

namespace PipeCall

/-- The number of open pipes after a call. -/
def openAfter (pipes : ℕ) : PipeCall → ℕ
  | openFiles outcome => (Linux.getOpenFiles outcome pipes).2
  | processCount outcome => (Linux.getProcessCount outcome pipes).2
  | cpuTemp outcome => (Linux.getCpuTemp outcome pipes).2
  | macosInfo outcome => (MacOS.getMacosInfo outcome pipes).2
  | freeMemory outcome => (MacOS.getFreeMemory outcome pipes).2

/-- No pipe is left open: `popen` fails, or the getter takes an exit on which it closes the
pipe. Two getters have one: `get_open_files` when there is a line, and `get_cpu_temp` when
it finds its line. -/
def closes : PipeCall → Bool
  | openFiles outcome => outcome != some []
  | cpuTemp outcome => outcome.all (·.any Linux.isPackageLine)
  | processCount outcome | macosInfo outcome | freeMemory outcome => outcome.isNone

theorem findTemp_openAfter (lines : List Text) (pipes : ℕ) :
    (Linux.findTemp lines (pipes + 1)).2 =
      if lines.any Linux.isPackageLine then pipes else pipes + 1 := by
  induction lines with
  | nil => rfl
  | cons line lines ih =>
      cases found : Linux.isPackageLine line with
      | true =>
          rw [Linux.findTemp]
          simp only [found, if_true, List.any_cons, Bool.true_or]
          rfl
      | false =>
          rw [Linux.findTemp]
          simp only [found, Bool.false_eq_true, if_false, List.any_cons, Bool.false_or]
          exact ih

/-- **What a call does to the number of open pipes**: it leaves one more open unless it
closes the one it opened. -/
theorem openAfter_eq (call : PipeCall) (pipes : ℕ) :
    call.openAfter pipes = pipes + if call.closes then 0 else 1 := by
  cases call with
  | openFiles outcome =>
      cases outcome with
      | none => rfl
      | some lines => cases lines <;> rfl
  | processCount outcome => cases outcome <;> rfl
  | macosInfo outcome =>
      cases outcome with
      | none => rfl
      | some lines => cases lines <;> rfl
  | freeMemory outcome => cases outcome <;> rfl
  | cpuTemp outcome =>
      cases outcome with
      | none => rfl
      | some lines =>
          have left : (cpuTemp (some lines)).openAfter pipes =
              if lines.any Linux.isPackageLine then pipes else pipes + 1 :=
            findTemp_openAfter lines pipes
          rw [left]
          by_cases found : lines.any Linux.isPackageLine = true
          · simp [closes, found]
          · simp [closes, found]

end PipeCall

/-- The machine whose state is the number of open pipes. -/
def pipeMachine : Machine ℕ PipeCall := fun pipes call => some (call.openAfter pipes)

/-- The call leaves as many pipes open as there were. -/
def pipesBalanced (pipes : ℕ) (call : PipeCall) : Prop := call.openAfter pipes = pipes

/-- **When no pipe leaks.** The number of open pipes is the same after each call of a
sequence as before it exactly when each call closes the pipe it opens. -/
theorem pipes_balanced_iff (pipes : ℕ) (calls : List PipeCall) :
    EachStep pipeMachine pipes calls pipesBalanced ↔ ∀ call ∈ calls, call.closes = true := by
  have total : ∀ s e, ∃ s', pipeMachine s e = some s' := fun s e => ⟨e.openAfter s, rfl⟩
  rw [← eachStep_iff_forall total]
  refine eachStep_congr (fun _ => True) ?_ (fun _ _ _ _ _ _ => trivial) trivial
  intro pipes call _
  rw [pipesBalanced, PipeCall.openAfter_eq]
  cases call.closes <;> simp

/-- The pipes that are open after a sequence are those before it and one for each call
that does not close its own. -/
theorem run_pipeMachine (pipes : ℕ) (calls : List PipeCall) :
    run pipeMachine pipes calls = some (pipes + calls.countP fun call => !call.closes) := by
  induction calls generalizing pipes with
  | nil => rfl
  | cons call calls ih =>
      rw [run_cons, pipeMachine, Option.bind_some, ih, PipeCall.openAfter_eq, List.countP_cons]
      cases call.closes <;> simp [Nat.add_assoc, Nat.add_comm]

/-- Counting the processes leaves a pipe open. -/
theorem pipes_leak : ¬ ∀ (pipes : ℕ) (calls : List PipeCall),
    EachStep pipeMachine pipes calls pipesBalanced := by
  intro every
  have balanced := every 0 [.processCount (some ["1 init\n".toList])]
  have same := balanced [] _ [] 0 rfl rfl
  exact absurd same (by unfold pipesBalanced; decide)

end DslinkSystem
