import DslinkSystem.Commands.CommandSteps

/-!
# The children of the command side

All invocations share one process handler, and `start` looks before it launches. So
in every state of every run at most one child runs, it is the one launched last, and
`process` refers to it. An invocation launches at most one child, and children are
launched in the order of the invocations (`children_in_order`).
-/

set_option autoImplicit false

namespace DslinkSystem

open EventRuns

/-! ## One process handler -/

namespace ProcessHandler

variable {handler after : ProcessHandler}

/-- The invocations that launched the children, in the order of launch. -/
def launchers (handler : ProcessHandler) : List ℕ := handler.children.map (·.launchedBy)

theorem launchers_modify (c : ℕ) {change : Child → Child}
    (same : ∀ child, (change child).launchedBy = child.launchedBy) :
    (handler.children.modify c change).map (·.launchedBy) = handler.launchers := by
  apply List.ext_getElem?
  intro d
  rw [launchers, List.getElem?_map, List.getElem?_map, List.getElem?_modify]
  cases handler.children[d]? with
  | none => rfl
  | some child => by_cases here : c = d <;> simp [here, same]

@[simp] theorem launchers_exit (c : ℕ) : (handler.exit c).launchers = handler.launchers :=
  launchers_modify c fun _ => rfl

@[simp] theorem launchers_endOfFile (c : ℕ) :
    (handler.endOfFile c).launchers = handler.launchers :=
  launchers_modify c fun _ => rfl

@[simp] theorem launchers_append (c : ℕ) (bytes : List UInt8) :
    (handler.append c bytes).launchers = handler.launchers := by
  rw [append_frame]
  rfl

@[simp] theorem launchers_terminate : handler.terminate.launchers = handler.launchers := by
  unfold terminate
  split
  · exact launchers_exit _
  · rfl

theorem launchers_launch (invocation : ℕ) (args : String) :
    (handler.launch invocation args).launchers = handler.launchers ++ [invocation] := by
  simp [launchers, launch]

/-- An invocation launched a child exactly when it stands among the launchers at the
child's place. -/
theorem launched_iff {invocation c : ℕ} :
    handler.Launched invocation c ↔ handler.launchers[c]? = some invocation := by
  rw [launchers, List.getElem?_map, Option.map_eq_some_iff, Launched]

/-- Only the child launched last may run, and `process` refers to it. -/
structure LastRuns (handler : ProcessHandler) : Prop where
  refers : ∀ {c : ℕ}, handler.process = some c → c + 1 = handler.children.length
  running : ∀ {c : ℕ}, handler.childRunning c = true → handler.process = some c

theorem LastRuns.launch (last : LastRuns handler) (idle : handler.running = false)
    (invocation : ℕ) (args : String) : LastRuns (handler.launch invocation args) where
  refers found := by
    obtain rfl := Option.some.inj found
    simp [ProcessHandler.launch]
  running live := by
    rw [childRunning_launch, Bool.or_eq_true, decide_eq_true_eq] at live
    rcases live with new | old
    · rw [new]
      rfl
    · have running := running_iff.mpr ⟨_, last.running old, old⟩
      rw [idle] at running
      cases running

/-- A child that ends leaves the others as they were. -/
theorem LastRuns.exit (last : LastRuns handler) (c : ℕ) : LastRuns (handler.exit c) where
  refers found := by
    rw [ProcessHandler.exit, List.length_modify]
    exact last.refers found
  running live := by
    rw [childRunning_exit, Bool.and_eq_true] at live
    exact last.running live.1

theorem LastRuns.terminate (last : LastRuns handler) : LastRuns handler.terminate := by
  unfold ProcessHandler.terminate
  split
  · exact last.exit _
  · exact last

/-- A change that touches neither the children that run nor `process`. -/
theorem LastRuns.congr (last : LastRuns handler) (process : after.process = handler.process)
    (children : after.children.length = handler.children.length)
    (running : ∀ c, after.childRunning c = handler.childRunning c) : LastRuns after where
  refers found := by
    rw [children]
    exact last.refers (process ▸ found)
  running live := process ▸ last.running (running _ ▸ live)

theorem LastRuns.endOfFile (last : LastRuns handler) (c : ℕ) :
    LastRuns (handler.endOfFile c) :=
  last.congr rfl (List.length_modify ..) (childRunning_endOfFile c)

theorem LastRuns.append (last : LastRuns handler) (c : ℕ) (bytes : List UInt8) :
    LastRuns (handler.append c bytes) := by
  refine last.congr ?_ ?_ fun d => ?_
  all_goals rw [append_frame]
  rfl

/-- A successful `start` launches nothing, or the child of its invocation. -/
theorem LastRuns.start (last : LastRuns handler) {invocation : ℕ} {args : String}
    {launches : Bool} (started : handler.start invocation args launches = .returned after) :
    LastRuns after := by
  rcases start_cases started with ⟨-, rfl⟩ | ⟨idle, -, rfl⟩
  · exact last
  · exact last.launch idle invocation args

/-- A successful `start` adds its invocation to the launchers, if anything. -/
theorem launchers_start {invocation : ℕ} {args : String} {launches : Bool}
    (started : handler.start invocation args launches = .returned after) :
    after.launchers = handler.launchers ∨ after.launchers = handler.launchers ++ [invocation] := by
  rcases start_cases started with ⟨-, rfl⟩ | ⟨-, -, rfl⟩
  · exact .inl rfl
  · exact .inr (launchers_launch _ _)

end ProcessHandler

/-! ## Runs -/

namespace CommandSide

variable {side after : CommandSide}

/-- Only the child launched last may run, and the launchers are invocations in
increasing order. -/
structure ChildrenInOrder (side : CommandSide) : Prop where
  last : side.process.LastRuns
  increasing : side.process.launchers.Pairwise (· < ·)
  made : ∀ {invocation : ℕ}, invocation ∈ side.process.launchers →
    invocation < side.invocations.length

namespace ChildrenInOrder

/-- A step that launches nothing. -/
theorem of_same (order : ChildrenInOrder side) (last : after.process.LastRuns)
    (launchers : after.process.launchers = side.process.launchers)
    (invocations : side.invocations.length ≤ after.invocations.length) :
    ChildrenInOrder after where
  last := last
  increasing := launchers ▸ order.increasing
  made member := Nat.lt_of_lt_of_le (order.made (launchers ▸ member)) invocations

/-- A step of a new invocation, which may launch a child. -/
theorem of_start (order : ChildrenInOrder side) {cmd : String} {launches : Bool}
    (started : side.process.start side.invocations.length cmd launches = .returned after.process)
    (invocations : after.invocations.length = side.invocations.length + 1) :
    ChildrenInOrder after where
  last := order.last.start started
  increasing := by
    rcases ProcessHandler.launchers_start started with same | more
    · exact same ▸ order.increasing
    · rw [more, List.pairwise_append]
      refine ⟨order.increasing, List.pairwise_singleton _ _, fun old member new here => ?_⟩
      rw [List.mem_singleton.mp here]
      exact order.made member
  made member := by
    rw [invocations]
    rcases ProcessHandler.launchers_start started with same | more
    · exact Nat.lt_succ_of_lt (order.made (same ▸ member))
    · rw [more, List.mem_append, List.mem_singleton] at member
      rcases member with old | rfl
      · exact Nat.lt_succ_of_lt (order.made old)
      · exact Nat.lt_succ_self _

end ChildrenInOrder

theorem length_invoked (invocation : Invocation) :
    (side.invoked invocation).invocations.length = side.invocations.length + 1 := by
  simp [invoked]

/-- **Every step keeps the children in order.** -/
theorem ChildrenInOrder.step (order : ChildrenInOrder side) {event : CommandEvent}
    (step : CommandStep side event after) : ChildrenInOrder after := by
  cases step with
  | busy | notOpen | waits | silent => exact order
  | refused | failed | refusedStream | failedStream =>
      exact order.of_same order.last rfl (by simp [invoked, deliver])
  | executed free given started => exact order.of_start started (length_invoked _)
  | executedStream free given started => exact order.of_start started (length_invoked _)
  | closed free opened destroyed =>
      exact order.of_same order.last.terminate ProcessHandler.launchers_terminate
        (by simp [CommandSide.closed])
  | returned => exact order.of_same (order.last.congr rfl rfl fun _ => rfl) rfl (Nat.le_refl _)
  | sent => exact order.of_same (order.last.congr rfl rfl fun _ => rfl) rfl (Nat.le_refl _)
  | ended | quiet => exact order.of_same order.last rfl (Nat.le_refl _)
  | exit c =>
      exact order.of_same (order.last.exit c) (ProcessHandler.launchers_exit c) (Nat.le_refl _)
  | append c bytes =>
      exact order.of_same (order.last.append c bytes) (ProcessHandler.launchers_append c bytes)
        (Nat.le_refl _)
  | endOfFile c =>
      exact order.of_same (order.last.endOfFile c) (ProcessHandler.launchers_endOfFile c)
        (Nat.le_refl _)

theorem childrenInOrder_new (execPath arguments : String) :
    ChildrenInOrder (new execPath arguments) where
  last :=
    { refers := fun found => by cases found
      running := fun live => by cases live }
  increasing := List.Pairwise.nil
  made member := by cases member

theorem childrenInOrder_run {execPath arguments : String} {events : List CommandEvent}
    (reached : run commandMachine (new execPath arguments) events = some side) :
    ChildrenInOrder side :=
  run_keeps (fun _ _ _ order step => order.step (commandStep_of_machine step))
    (childrenInOrder_new execPath arguments) reached

/-- **One child at a time, in order.** In every state of every run at most one child
runs, and it is the one launched last, which `process` refers to; each invocation
launched at most one child; and a child launched later was launched by a later
invocation. -/
theorem children_in_order (execPath arguments : String) (events : List CommandEvent)
    (side : CommandSide)
    (reached : run commandMachine (new execPath arguments) events = some side) :
    (∀ c : ℕ, side.process.childRunning c = true →
      side.process.process = some c ∧ c + 1 = side.process.children.length) ∧
    (∀ invocation c d : ℕ, side.process.Launched invocation c →
      side.process.Launched invocation d → c = d) ∧
    ∀ first second c d : ℕ, c < d → side.process.Launched first c →
      side.process.Launched second d → first < second := by
  have order := childrenInOrder_run reached
  have later : ∀ first second c d : ℕ, c < d → side.process.Launched first c →
      side.process.Launched second d → first < second := by
    intro first second c d before one other
    obtain ⟨within, rfl⟩ := List.getElem?_eq_some_iff.mp (ProcessHandler.launched_iff.mp one)
    obtain ⟨within', rfl⟩ := List.getElem?_eq_some_iff.mp (ProcessHandler.launched_iff.mp other)
    exact List.pairwise_iff_getElem.mp order.increasing c d within within' before
  refine ⟨fun c live => ?_, fun invocation c d one other => ?_, later⟩
  · have refers := order.last.running live
    exact ⟨refers, order.last.refers refers⟩
  · rcases Nat.lt_trichotomy c d with before | same | beyond
    · exact absurd (later _ _ _ _ before one other) (Nat.lt_irrefl _)
    · exact same
    · exact absurd (later _ _ _ _ beyond other one) (Nat.lt_irrefl _)

/-- A command whose child runs. -/
theorem children_in_order_of_one :
    ∃ side, run commandMachine (new "" "")
        [.executeCommand (.map [("cmd", .string "a")]) true] = some side ∧
      ∀ c : ℕ, side.process.childRunning c = true →
        side.process.process = some c ∧ c + 1 = side.process.children.length := by
  refine ⟨_, rfl, ?_⟩
  exact (children_in_order "" "" [.executeCommand (.map [("cmd", .string "a")]) true] _ rfl).1

end CommandSide

end DslinkSystem
