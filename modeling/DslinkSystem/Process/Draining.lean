import DslinkSystem.Library.EventRuns

/-!
# Draining the output buffer

`ProcessHandler::getOutput` makes five calls on the buffer `output`: `size()`,
`data()`, `size()` while it copies, `size()` for the consumption, and `consume()`.
The reader of a child's output appends to the buffer from another thread, and an
append may fall between any two of them.

`advance` makes the next of these calls. The bytes that the results and the buffer
account for (`kept`) grow by each appended block, unless it falls after `data()` and
before the last `size()`: such a block is consumed without having been copied. So
nothing is lost exactly when every block that falls there is empty
(`drained_iff`).
-/

set_option autoImplicit false

namespace DslinkSystem

open EventRuns

variable {Byte : Type}

/-! ## The calls of `getOutput` -/

/-- How far a call of `getOutput` has come. -/
inductive GetOutput (Byte : Type) where
  /-- No call is in progress. -/
  | idle
  /-- `size()` was not zero. -/
  | sized
  /-- `data()` gave these bytes. -/
  | data (bufs : List Byte)
  /-- The copy, whose length is the `size()` asked for while copying. -/
  | copied (result : List Byte)
  /-- The `size()` asked for to consume. -/
  | measured (result : List Byte) (size : ℕ)
  deriving DecidableEq, Repr

/-- The buffer `output`, the call of `getOutput` in progress, and the results
returned so far. -/
structure OutputBuffer (Byte : Type) where
  output : List Byte := []
  call : GetOutput Byte := .idle
  results : List (List Byte) := []
  deriving DecidableEq, Repr

namespace OutputBuffer

variable (buffer : OutputBuffer Byte)

/-- The next call on the buffer. A copy past the end of what `data()` gave stops
at the end. -/
def advance : OutputBuffer Byte :=
  match buffer.call with
  | .idle =>
      if buffer.output.length = 0 then { buffer with results := buffer.results ++ [[]] }
      else { buffer with call := .sized }
  | .sized => { buffer with call := .data buffer.output }
  | .data bufs => { buffer with call := .copied (bufs.take buffer.output.length) }
  | .copied result => { buffer with call := .measured result buffer.output.length }
  | .measured result size =>
      { output := buffer.output.drop size, call := .idle, results := buffer.results ++ [result] }

/-- The reader appends a block. -/
def append (block : List Byte) : OutputBuffer Byte :=
  { buffer with output := buffer.output ++ block }

end OutputBuffer

/-- What happens to the buffer. -/
inductive BufferEvent (Byte : Type) where
  | advance
  | append (block : List Byte)
  deriving DecidableEq, Repr

namespace BufferEvent

/-- The bytes an event brings. -/
def appended : BufferEvent Byte → List Byte
  | advance => []
  | append block => block

/-- The handling of one event. -/
def handle (buffer : OutputBuffer Byte) : BufferEvent Byte → OutputBuffer Byte
  | advance => buffer.advance
  | append block => buffer.append block

end BufferEvent

/-- The machine of the buffer. -/
def bufferMachine : Machine (OutputBuffer Byte) (BufferEvent Byte) :=
  fun buffer event => some (event.handle buffer)

namespace OutputBuffer

variable {buffer : OutputBuffer Byte}

/-! ## What the results and the buffer account for -/

/-- The call has taken its bytes and has not yet asked how much to consume. -/
def unmeasured (buffer : OutputBuffer Byte) : Bool :=
  match buffer.call with
  | .data _ | .copied _ => true
  | _ => false

/-- The bytes that will have been returned or are still in the buffer when the call
in progress ends. -/
def kept (buffer : OutputBuffer Byte) : List Byte :=
  buffer.results.flatten ++
    match buffer.call with
    | .idle | .sized => buffer.output
    | .data bufs => bufs
    | .copied result => result
    | .measured result size => result ++ buffer.output.drop size

/-- The buffer still has the bytes that the call in progress took and measured. -/
def Fresh (buffer : OutputBuffer Byte) : Prop :=
  match buffer.call with
  | .data bufs => bufs.length ≤ buffer.output.length
  | .measured _ size => size ≤ buffer.output.length
  | _ => True

theorem fresh_new : Fresh ({} : OutputBuffer Byte) := trivial

theorem fresh_handle (fresh : Fresh buffer) (event : BufferEvent Byte) :
    Fresh (event.handle buffer) := by
  obtain ⟨output, call, results⟩ := buffer
  cases event with
  | append block =>
      cases call with
      | data bufs =>
          have within : bufs.length ≤ output.length := fresh
          simpa [Fresh, BufferEvent.handle, append] using Nat.le_add_right_of_le within
      | measured result size =>
          have within : size ≤ output.length := fresh
          simpa [Fresh, BufferEvent.handle, append] using Nat.le_add_right_of_le within
      | idle => trivial
      | sized => trivial
      | copied result => trivial
  | advance =>
      cases call with
      | idle =>
          by_cases empty : output.length = 0 <;>
            simp [Fresh, BufferEvent.handle, advance, empty]
      | sized => exact Nat.le_refl output.length
      | data bufs => trivial
      | copied result => exact Nat.le_refl output.length
      | measured result size => trivial

/-- A call on the buffer accounts for the same bytes. -/
theorem kept_advance (fresh : Fresh buffer) : buffer.advance.kept = buffer.kept := by
  obtain ⟨output, call, results⟩ := buffer
  cases call with
  | idle =>
      by_cases empty : output.length = 0
      · simp [advance, kept, List.eq_nil_of_length_eq_zero empty]
      · simp [advance, kept, empty]
  | sized => rfl
  | data bufs =>
      have within : bufs.length ≤ output.length := fresh
      simp [advance, kept, List.take_of_length_le within]
  | copied result => simp [advance, kept]
  | measured result size => simp [advance, kept]

/-- An append is accounted for, unless the call in progress has taken its bytes and
not yet asked how much to consume. -/
theorem kept_append (fresh : Fresh buffer) (block : List Byte) :
    (buffer.append block).kept = buffer.kept ++ if buffer.unmeasured then [] else block := by
  obtain ⟨output, call, results⟩ := buffer
  cases call with
  | measured result size =>
      have within : size ≤ output.length := fresh
      simp [append, kept, unmeasured, List.drop_append_of_le_length within]
  | _ => simp [append, kept, unmeasured]

/-! ## Runs -/

/-- An append that falls after `data()` and before the last `size()` brings
nothing. -/
def appendsMeasured (buffer : OutputBuffer Byte) : BufferEvent Byte → Prop
  | .append block => buffer.unmeasured = true → block = []
  | .advance => True

/-- A step accounts for what its event brings exactly when it is no append between
`data()` and the last `size()`, or brings nothing. -/
theorem kept_handle (fresh : Fresh buffer) (event : BufferEvent Byte) :
    ∃ added, (event.handle buffer).kept = buffer.kept ++ added ∧
      added.length ≤ event.appended.length ∧
      (added = event.appended ↔ appendsMeasured buffer event) := by
  cases event with
  | advance =>
      refine ⟨[], ?_, Nat.le_refl _, ?_⟩
      · simp [BufferEvent.handle, kept_advance fresh]
      · simp [appendsMeasured, BufferEvent.appended]
  | append block =>
      refine ⟨_, kept_append fresh block, ?_, ?_⟩
      · split <;> simp [BufferEvent.appended]
      · simp only [appendsMeasured, BufferEvent.appended]
        split
        · next lost => simp [lost, eq_comm]
        · next found => simp [found]

/-- **When draining loses nothing.** In a state that a run reaches and in which no
`getOutput` is in progress, the results followed by the buffer are all that was
appended, in order, exactly when every append of the run between a `data()` and the
last `size()` of its call brought nothing. -/
theorem drained_iff {events : List (BufferEvent Byte)} {buffer : OutputBuffer Byte}
    (reached : run bufferMachine {} events = some buffer) (idle : buffer.call = .idle) :
    buffer.results.flatten ++ buffer.output = events.flatMap BufferEvent.appended ↔
      EachStep bufferMachine {} events appendsMeasured := by
  obtain ⟨added, grown, -, exact_run⟩ := ledger_iff_eachStep Fresh
    (fun _ event _ fresh step => Option.some.inj step ▸ fresh_handle fresh event)
    (fun _ event _ fresh step => Option.some.inj step ▸ kept_handle fresh event)
    fresh_new reached
  have start : ({} : OutputBuffer Byte).kept = [] := rfl
  have finish : buffer.kept = buffer.results.flatten ++ buffer.output := by simp [kept, idle]
  rw [← finish, grown, start, List.nil_append, ← collected_eq_flatMap reached]
  exact exact_run

/-- A block that arrives before `data()` is returned. -/
theorem drained_before_data :
    let events : List (BufferEvent UInt8) := [.append [1], .advance, .append [2], .advance, .advance,
      .advance, .advance]
    ∃ buffer, run bufferMachine {} events = some buffer ∧ buffer.call = .idle ∧
      (buffer.results.flatten ++ buffer.output = events.flatMap BufferEvent.appended ↔
        EachStep bufferMachine {} events appendsMeasured) :=
  ⟨_, rfl, rfl, drained_iff rfl rfl⟩

/-- A block that arrives after `data()` is consumed and never returned. -/
theorem draining_loses_a_block :
    ¬ ∀ (events : List (BufferEvent UInt8)) (buffer : OutputBuffer UInt8),
      run bufferMachine {} events = some buffer → buffer.call = .idle →
        buffer.results.flatten ++ buffer.output = events.flatMap BufferEvent.appended := by
  intro every
  have kept := every [.append [1], .advance, .advance, .append [2], .advance, .advance, .advance]
    ⟨[], .idle, [[1]]⟩ rfl rfl
  cases kept

/-! ## A call that no append disturbs -/

/-- `getOutput()` as one step: everything in the buffer is returned, and the buffer
is empty. -/
theorem getOutput_undisturbed (output : List Byte) (results : List (List Byte)) :
    ∃ calls, run bufferMachine ⟨output, .idle, results⟩ (List.replicate calls .advance) =
      some ⟨[], .idle, results ++ [output]⟩ := by
  cases output with
  | nil => exact ⟨1, rfl⟩
  | cons byte output =>
      refine ⟨5, ?_⟩
      simp [List.replicate, bufferMachine, BufferEvent.handle, advance]

end OutputBuffer

end DslinkSystem
