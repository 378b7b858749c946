import DslinkSystem.Process.Draining

/-!
# The process handler

`ProcessHandler` has one child and one buffer `output` for all commands. The
children ever launched are kept in order of launch, and `process` refers to the
latest one. Each has a pipe with a reader, which goes on reading after its child
was replaced. A byte in `output` is kept with the child that wrote it.

Every result and every change of the handler is that of the source; who launched a
child and who wrote a byte is recorded for the theorems only.
-/

set_option autoImplicit false

namespace DslinkSystem

open EventRuns

/-- A child process: the invocation that launched it, the command line, whether it
runs, and whether the reader of its output is still reading. -/
structure Child where
  launchedBy : ℕ
  execStr : String
  running : Bool := true
  reading : Bool := true
  deriving DecidableEq, Repr

/-- A byte in the buffer, and the child that wrote it. -/
structure OutputByte where
  child : ℕ
  byte : UInt8
  deriving DecidableEq, Repr

/-- `ProcessHandler`. -/
structure ProcessHandler where
  execPath : String := ""
  arguments : String := ""
  output : List OutputByte := []
  process : Option ℕ := none
  children : List Child := []
  deriving DecidableEq, Repr

namespace ProcessHandler

variable (handler : ProcessHandler)

/-- The child `c` runs. -/
def childRunning (c : ℕ) : Bool := (handler.children[c]?).any (·.running)

/-- The reader of the child `c` is still reading. -/
def childReading (c : ℕ) : Bool := (handler.children[c]?).any (·.reading)

/-- The invocation `invocation` launched the child `c`. -/
def Launched (invocation c : ℕ) : Prop :=
  ∃ child, handler.children[c]? = some child ∧ child.launchedBy = invocation

/-! ## Methods -/

/-- `running()`. A handler without a child runs none. -/
def running : Bool := handler.process.any handler.childRunning

/-- `exec_str` of `start(args)`. -/
def execStr (args : String) : String :=
  let execStr := if args ≠ "" then args else handler.execPath
  if handler.arguments ≠ "" then execStr ++ " " ++ handler.arguments else execStr

/-- `this->process = bp::child(...)`, when the launch succeeds. -/
def launch (invocation : ℕ) (args : String) : ProcessHandler :=
  { handler with
    process := some handler.children.length
    children := handler.children ++
      [{ launchedBy := invocation, execStr := handler.execStr args }] }

/-- `start(args)`, called by an invocation. The constructor of the child throws when
the launch fails; `launches` tells whether it succeeds. -/
def start (invocation : ℕ) (args : String) (launches : Bool) : Handled ProcessHandler :=
  if handler.running then .returned handler
  else if launches then .returned (handler.launch invocation args)
  else .threw handler

/-- `getOutput()`, as one step. -/
def getOutput : List OutputByte × ProcessHandler := (handler.output, { handler with output := [] })

/-- A child ends. -/
def exit (c : ℕ) : ProcessHandler :=
  { handler with
    children := handler.children.modify c fun child => { child with running := false } }

/-- `terminate()`. There may be no child to terminate. -/
def terminate : ProcessHandler :=
  match handler.process with
  | some c => handler.exit c
  | none => handler

/-- `getOutput()` as one step is what its calls on the buffer come to when no append
falls between them. -/
theorem getOutput_atomic :
    ∃ calls, run bufferMachine ⟨handler.output, .idle, []⟩ (List.replicate calls .advance) =
      some ⟨handler.getOutput.2.output, .idle, [handler.getOutput.1]⟩ :=
  OutputBuffer.getOutput_undisturbed handler.output []

/-! ## The reader of a child -/

/-- The reader appends bytes of the child `c`. -/
def append (c : ℕ) (bytes : List UInt8) : ProcessHandler :=
  if handler.childReading c then
    { handler with output := handler.output ++ bytes.map fun byte => ⟨c, byte⟩ }
  else handler

/-- The reader reaches the end of the output of the child `c`. -/
def endOfFile (c : ℕ) : ProcessHandler :=
  { handler with
    children := handler.children.modify c fun child => { child with reading := false } }

/-! ## Which children run, are read, and who launched them -/

variable {handler}

theorem launched_unique {first second c : ℕ} (one : handler.Launched first c)
    (other : handler.Launched second c) : first = second := by
  obtain ⟨child, found, rfl⟩ := one
  obtain ⟨child', found', rfl⟩ := other
  rw [found] at found'
  rw [Option.some.inj found']

theorem exists_launched_of_running {c : ℕ} (live : handler.childRunning c = true) :
    ∃ invocation, handler.Launched invocation c := by
  cases found : handler.children[c]? with
  | none => simp [childRunning, found] at live
  | some child => exact ⟨child.launchedBy, child, found, rfl⟩

theorem exists_launched_of_reading {c : ℕ} (reads : handler.childReading c = true) :
    ∃ invocation, handler.Launched invocation c := by
  cases found : handler.children[c]? with
  | none => simp [childReading, found] at reads
  | some child => exact ⟨child.launchedBy, child, found, rfl⟩

theorem running_iff : handler.running = true ↔
    ∃ c, handler.process = some c ∧ handler.childRunning c = true := by
  cases h : handler.process with
  | none => simp [running, h]
  | some c => simp [running, h]

/-- A change to a child that leaves what is observed of it alone. -/
theorem any_modify_of_eq (children : List Child) (c d : ℕ) {change : Child → Child}
    {observe : Child → Bool} (same : ∀ child, observe (change child) = observe child) :
    ((children.modify c change)[d]?).any observe = (children[d]?).any observe := by
  rw [List.getElem?_modify]
  cases children[d]? with
  | none => rfl
  | some child => by_cases here : c = d <;> simp [here, same]

/-- A change that clears a flag of one child. -/
theorem any_modify_of_clears (children : List Child) (c d : ℕ) {change : Child → Child}
    {observe : Child → Bool} (clears : ∀ child, observe (change child) = false) :
    ((children.modify c change)[d]?).any observe =
      ((children[d]?).any observe && !decide (c = d)) := by
  rw [List.getElem?_modify]
  cases children[d]? with
  | none => rfl
  | some child => by_cases here : c = d <;> simp [here, clears]

/-- A change that leaves the launcher of each child alone. -/
theorem launched_modify (c : ℕ) (change : Child → Child)
    (same : ∀ child, (change child).launchedBy = child.launchedBy) {invocation d : ℕ} :
    ({ handler with children := handler.children.modify c change } : ProcessHandler).Launched
      invocation d ↔ handler.Launched invocation d := by
  simp only [Launched, List.getElem?_modify]
  cases handler.children[d]? with
  | none => simp
  | some child => by_cases here : c = d <;> simp [here, same]

@[simp] theorem childRunning_exit (c d : ℕ) :
    (handler.exit c).childRunning d = (handler.childRunning d && !decide (c = d)) :=
  any_modify_of_clears _ _ _ fun _ => rfl

@[simp] theorem childReading_exit (c d : ℕ) :
    (handler.exit c).childReading d = handler.childReading d :=
  any_modify_of_eq _ _ _ fun _ => rfl

@[simp] theorem launched_exit (c : ℕ) {invocation d : ℕ} :
    (handler.exit c).Launched invocation d ↔ handler.Launched invocation d :=
  launched_modify c (fun child => { child with running := false }) fun _ => rfl

@[simp] theorem childRunning_endOfFile (c d : ℕ) :
    (handler.endOfFile c).childRunning d = handler.childRunning d :=
  any_modify_of_eq _ _ _ fun _ => rfl

@[simp] theorem childReading_endOfFile (c d : ℕ) :
    (handler.endOfFile c).childReading d = (handler.childReading d && !decide (c = d)) :=
  any_modify_of_clears _ _ _ fun _ => rfl

@[simp] theorem launched_endOfFile (c : ℕ) {invocation d : ℕ} :
    (handler.endOfFile c).Launched invocation d ↔ handler.Launched invocation d :=
  launched_modify c (fun child => { child with reading := false }) fun _ => rfl

/-- Appending to the buffer touches no child. -/
theorem append_frame (c : ℕ) (bytes : List UInt8) :
    handler.append c bytes = { handler with output := (handler.append c bytes).output } := by
  unfold append
  split <;> rfl

/-- A new byte in the buffer was written by the child whose reader appended it. -/
theorem mem_output_append {c : ℕ} {bytes : List UInt8} {written : OutputByte}
    (member : written ∈ (handler.append c bytes).output) :
    written ∈ handler.output ∨ written.child = c ∧ handler.childReading c = true := by
  unfold append at member
  split at member
  · next reads =>
      rcases List.mem_append.mp member with old | new
      · exact .inl old
      · obtain ⟨byte, -, rfl⟩ := List.mem_map.mp new
        exact .inr ⟨rfl, reads⟩
  · exact .inl member

theorem exit_frame (c : ℕ) : (handler.exit c).output = handler.output ∧
    (handler.exit c).process = handler.process := ⟨rfl, rfl⟩

/-- `terminate()` ends the child that `process` refers to. -/
theorem childRunning_terminate (c : ℕ) :
    handler.terminate.childRunning c =
      (handler.childRunning c && !decide (handler.process = some c)) := by
  unfold terminate
  cases h : handler.process with
  | none => simp
  | some d => simp

theorem childReading_terminate (c : ℕ) :
    handler.terminate.childReading c = handler.childReading c := by
  unfold terminate
  split <;> simp

theorem launched_terminate {invocation c : ℕ} :
    handler.terminate.Launched invocation c ↔ handler.Launched invocation c := by
  unfold terminate
  split <;> simp

theorem output_terminate : handler.terminate.output = handler.output := by
  unfold terminate
  split <;> rfl

/-! ## `start` -/

theorem getElem?_launch (invocation : ℕ) (args : String) (c : ℕ) :
    (handler.launch invocation args).children[c]? =
      if c = handler.children.length then
        some { launchedBy := invocation, execStr := handler.execStr args }
      else handler.children[c]? := by
  simp only [launch, List.getElem?_append, List.getElem?_singleton]
  rcases Nat.lt_trichotomy c handler.children.length with before | same | beyond
  · simp [before, Nat.ne_of_lt before]
  · simp [same]
  · simp [Nat.not_lt.mpr (Nat.le_of_lt beyond), Nat.ne_of_gt beyond, Nat.sub_ne_zero_of_lt beyond]

@[simp] theorem childRunning_launch (invocation : ℕ) (args : String) (c : ℕ) :
    (handler.launch invocation args).childRunning c =
      (decide (c = handler.children.length) || handler.childRunning c) := by
  rw [childRunning, getElem?_launch]
  split <;> simp [*, childRunning]

@[simp] theorem childReading_launch (invocation : ℕ) (args : String) (c : ℕ) :
    (handler.launch invocation args).childReading c =
      (decide (c = handler.children.length) || handler.childReading c) := by
  rw [childReading, getElem?_launch]
  split <;> simp [*, childReading]

/-- The children launched before keep their launchers, and the new one has its own. -/
theorem launched_launch {invocation other c : ℕ} {args : String} :
    (handler.launch invocation args).Launched other c ↔
      handler.Launched other c ∨ c = handler.children.length ∧ other = invocation := by
  rw [Launched, getElem?_launch]
  split
  · next new => simp [Launched, new, eq_comm]
  · next old => simp [Launched, old]

/-- What a `start` that does not throw leaves: the handler as it was, when a child
runs, and else a new child. -/
theorem start_cases {invocation : ℕ} {args : String} {launches : Bool} {after : ProcessHandler}
    (started : handler.start invocation args launches = .returned after) :
    (handler.running = true ∧ after = handler) ∨
      (handler.running = false ∧ launches = true ∧ after = handler.launch invocation args) := by
  unfold start at started
  split at started
  · next live => exact .inl ⟨live, (Handled.returned.inj started).symm⟩
  · next idle =>
      split at started
      · next launched =>
          exact .inr ⟨by simpa using idle, launched, (Handled.returned.inj started).symm⟩
      · cases started

/-- A `start` that does not throw finds a child running or launches one. -/
theorem running_or_launches {invocation : ℕ} {args : String} {launches : Bool}
    {after : ProcessHandler} (started : handler.start invocation args launches = .returned after) :
    handler.running = true ∨ launches = true := by
  rcases start_cases started with ⟨live, -⟩ | ⟨-, launched, -⟩
  · exact .inl live
  · exact .inr launched

/-- `start` throws when no child runs and the launch fails, and then it changes
nothing. -/
theorem start_threw {invocation : ℕ} {args : String} {launches : Bool} {after : ProcessHandler}
    (started : handler.start invocation args launches = .threw after) :
    after = handler ∧ handler.running = false ∧ launches = false := by
  unfold start at started
  split at started
  · cases started
  · next idle =>
      split at started
      · cases started
      · next fails =>
          exact ⟨(Handled.threw.inj started).symm, by simpa using idle, by simpa using fails⟩

theorem start_ne_stopped {invocation : ℕ} {args : String} {launches : Bool}
    {after : ProcessHandler} : handler.start invocation args launches ≠ .stopped after := by
  intro stopped
  unfold start at stopped
  split at stopped
  · cases stopped
  · split at stopped <;> cases stopped

end ProcessHandler

end DslinkSystem
