import DslinkSystem.Info.MacGetters
import DslinkSystem.Info.Pipes
import DslinkSystem.Info.ProcessCount
import DslinkSystem.Library.Tallies
import DslinkSystem.Polling.Refresh

/-!
# The pipes that polling leaves open

On each platform some getters of the stat loop start commands and read them through pipes. A
tick calls the getters of the subscribed nodes one after another, up to one that throws, and
most of them leave their pipes open: on macOS and Windows all, on Linux the one of
`process_count`, the one of `open_files` when its command writes nothing, and the one of
`processor_temp` when its line is missing.

The pipes that are open after a run of the polling side are those before it and those that
the getters left open which the ticks called; the run is otherwise the one that is given the
texts of the getters (`pipes_left_open`).
-/

set_option autoImplicit false

namespace DslinkSystem

open EventRuns TimerSlots TextScan Tallies

variable {target : Platform}

/-! ## The getters with their pipes -/

section Getters

variable (popens : ℕ → PopenOutcome) (text : Option Text) (elsewhere : Elsewhere)

/-- The getter of a stat node on Linux. `popens` gives what `popen` gives to its calls, in the
order of the source; `text` is what it returns where it starts no command, unless it throws. -/
def Linux.textWithPipes : StatKey → WithPipes (Option Text)
  | .openFiles => return some (← getOpenFiles (popens 0))
  | .processCount => return some (← getProcessCount (popens 0))
  | .processorTemp => return some (← getCpuTemp (popens 0))
  | _ => return text

/-- The pipes that it leaves open. -/
def Linux.leftOpen : StatKey → ℕ
  | .openFiles => if popens 0 = some [] then 1 else 0
  | .processCount => opened (popens 0)
  | .processorTemp => if (popens 0).all (·.any isPackageLine) then 0 else 1
  | _ => 0

/-- The getter of a stat node on macOS. A text that reads a variable which was not assigned
is from elsewhere. -/
def MacOS.textWithPipes : StatKey → WithPipes (Option Text)
  | .cpuFrequency => return some (← getFrequency (popens 0))
  | .cpuUsage => return some (← getCpuUsage (popens 0))
  | .freeMemory =>
      return some ((← getFreeMemoryText (popens 0)).getD (elsewhere.text .freeMemory))
  | .hardwareModel => return some (← getProductName (popens 0))
  | .memoryUsage =>
      return some ((← getMemoryUsage elsewhere.share (popens 0) (popens 1) (popens 2)).getD
        (elsewhere.text .memoryUsage))
  | .modelName => return some (← getModelName (popens 0))
  | .openFiles => return some (← getOpenFiles (popens 0))
  | .operatingSystem => return some (← getOsFullName (popens 0) (popens 1))
  | .processCount => return some (← getProcessCount (popens 0))
  | .processorCount => return some (← getCpuCores (popens 0))
  | .processorTemp => return some (← getCpuTemp (popens 0))
  | .totalMemory => return some (← getTotalMemory (popens 0))
  | .usedMemory =>
      return some ((← getUsedMemory (popens 0) (popens 1)).getD (elsewhere.text .usedMemory))
  | .vendor => return some (← getVendor (popens 0))
  | _ => return text

/-- The pipes that it leaves open. -/
def MacOS.leftOpen : StatKey → ℕ
  | .cpuFrequency | .cpuUsage | .freeMemory | .hardwareModel | .modelName | .openFiles
  | .processCount | .processorCount | .processorTemp | .totalMemory | .vendor =>
      opened (popens 0)
  | .operatingSystem | .usedMemory => opened (popens 0) + opened (popens 1)
  | .memoryUsage => opened (popens 0) + opened (popens 1) + opened (popens 2)
  | _ => 0

/-- The getter of a stat node on Windows. A count that overflows is from elsewhere. -/
def Windows.textWithPipes : StatKey → WithPipes (Option Text)
  | .processCount =>
      return some ((getProcessCount ((← popen (popens 0)).map List.flatten)).getD
        (elsewhere.text .processCount))
  | _ => return text

/-- The pipes that it leaves open. -/
def Windows.leftOpen : StatKey → ℕ
  | .processCount => opened (popens 0)
  | _ => 0

/-- The getter of a stat node. -/
def textWithPipes : Platform → StatKey → WithPipes (Option Text)
  | .linux => Linux.textWithPipes popens text
  | .macos => MacOS.textWithPipes popens text elsewhere
  | .windows => Windows.textWithPipes popens text elsewhere

/-- The pipes that it leaves open. -/
def leftOpenBy : Platform → StatKey → ℕ
  | .linux => Linux.leftOpen popens
  | .macos => MacOS.leftOpen popens
  | .windows => Windows.leftOpen popens

end Getters

/-! ## What the getters leave open -/

/-- The loop of `get_cpu_temp` returns what it does however many pipes are open. -/
theorem Linux.findTemp_value (lines : List Text) (pipes other : ℕ) :
    (findTemp lines pipes).1 = (findTemp lines other).1 := by
  induction lines with
  | nil => rfl
  | cons line lines ih =>
      rw [findTemp]
      split
      · rfl
      · exact ih

theorem Linux.adds_getCpuTemp (outcome : PopenOutcome) :
    ∃ text, Adds (getCpuTemp outcome) text
      (if outcome.all (·.any isPackageLine) then 0 else 1) := by
  refine ⟨(getCpuTemp outcome 0).1, fun pipes => ?_⟩
  have value : (getCpuTemp outcome pipes).1 = (getCpuTemp outcome 0).1 := by
    cases outcome with
    | none => rfl
    | some lines => exact findTemp_value lines (pipes + 1) 1
  have after : (getCpuTemp outcome pipes).2 =
      pipes + if outcome.all (·.any isPackageLine) then 0 else 1 :=
    PipeCall.openAfter_eq (.cpuTemp outcome) pipes
  rw [← value, ← after]
  rfl

section Getters

variable (popens : ℕ → PopenOutcome) (text : Option Text) (elsewhere : Elsewhere)

theorem Linux.adds_textWithPipes (key : StatKey) :
    ∃ value, Adds (Linux.textWithPipes popens text key) value (Linux.leftOpen popens key) := by
  have openFiles : ∃ text, Adds (getOpenFiles (popens 0)) text
      (if popens 0 = some [] then 1 else 0) := by
    cases popens 0 with
    | none => exact ⟨_, fun _ => rfl⟩
    | some lines => cases lines <;> exact ⟨_, fun _ => rfl⟩
  have processCount : ∃ text, Adds (getProcessCount (popens 0)) text (opened (popens 0)) := by
    cases popens 0 <;> exact ⟨_, fun _ => rfl⟩
  cases key with
  | openFiles =>
      obtain ⟨_, adds⟩ := openFiles
      exact ⟨_, adds.andReturn some⟩
  | processCount =>
      obtain ⟨_, adds⟩ := processCount
      exact ⟨_, adds.andReturn some⟩
  | processorTemp =>
      obtain ⟨_, adds⟩ := adds_getCpuTemp (popens 0)
      exact ⟨_, adds.andReturn some⟩
  | _ => exact ⟨_, Adds.pure _⟩

theorem MacOS.adds_textWithPipes (key : StatKey) :
    ∃ value, Adds (MacOS.textWithPipes popens text elsewhere key) value
      (MacOS.leftOpen popens key) := by
  cases key with
  | cpuUsage | hardwareModel | modelName | openFiles | processCount | processorCount | vendor =>
      obtain ⟨_, adds⟩ := adds_getMacosInfo (popens 0)
      exact ⟨_, adds.andReturn some⟩
  | cpuFrequency | processorTemp | totalMemory =>
      obtain ⟨_, adds⟩ := adds_ofMacosInfo _ (popens 0)
      exact ⟨_, adds.andReturn some⟩
  | operatingSystem =>
      obtain ⟨_, adds⟩ := adds_getOsFullName (popens 0) (popens 1)
      exact ⟨_, adds.andReturn some⟩
  | freeMemory =>
      obtain ⟨_, adds⟩ := adds_getFreeMemoryText (popens 0)
      exact ⟨_, adds.andReturn fun value => some (value.getD (elsewhere.text .freeMemory))⟩
  | usedMemory =>
      obtain ⟨_, adds⟩ := adds_getUsedMemory (popens 0) (popens 1)
      exact ⟨_, adds.andReturn fun value => some (value.getD (elsewhere.text .usedMemory))⟩
  | memoryUsage =>
      obtain ⟨_, adds⟩ := adds_getMemoryUsage elsewhere.share (popens 0) (popens 1) (popens 2)
      exact ⟨_, adds.andReturn fun value => some (value.getD (elsewhere.text .memoryUsage))⟩
  | _ => exact ⟨_, Adds.pure _⟩

theorem Windows.adds_textWithPipes (key : StatKey) :
    ∃ value, Adds (Windows.textWithPipes popens text elsewhere key) value
      (Windows.leftOpen popens key) := by
  have processCount : Adds (popen (popens 0)) (popens 0) (opened (popens 0)) := by
    cases popens 0 <;> exact fun _ => rfl
  cases key with
  | processCount => exact ⟨_, processCount.andReturn _⟩
  | _ => exact ⟨_, Adds.pure _⟩

/-- **What a getter leaves open**, on each platform; its text does not depend on the pipes that
are open already. -/
theorem adds_textWithPipes (target : Platform) (key : StatKey) :
    ∃ value, Adds (textWithPipes popens text elsewhere target key) value
      (leftOpenBy popens target key) := by
  cases target with
  | linux => exact Linux.adds_textWithPipes popens text key
  | macos => exact MacOS.adds_textWithPipes popens text elsewhere key
  | windows => exact Windows.adds_textWithPipes popens text elsewhere key

end Getters

/-! ## A tick with the pipes -/

/-- What the getters of a tick are given: what `popen` gives to each, call by call, what those
return that start no command, and what is from elsewhere. -/
structure GetterInputs (target : Platform) where
  popens : StatNode target → ℕ → PopenOutcome
  texts : StatNode target → Option Text
  elsewhere : Elsewhere

namespace PollSide

section Loop

variable (inputs : GetterInputs target)

/-- The getter of a stat node. -/
def readWithPipes (key : StatNode target) : WithPipes (Option String) := do
  let text ← textWithPipes (inputs.popens key) (inputs.texts key) inputs.elsewhere target key.1
  return text.map String.ofList

/-- One turn of the loop over `nodes`: the getter is called when `handle_value` updates the
node. -/
def pollNodeWithPipes (done : CallbackRun target) (key : StatNode target) :
    WithPipes (Handled (CallbackRun target)) := do
  let node := done.side.nodes key
  if node.getSubsState then
    let called := { done with calls := done.calls ++ [.stat key] }
    if node.dynamic || (!node.dynamic && !node.isUpdated) then
      match ← readWithPipes inputs key with
      | some text => return .returned { called with
          side := done.side.setNode key (node.handleValue text)
          sets := done.sets ++ [key]
          anySubs := true }
      | none => return .threw called
    else return .returned { called with anySubs := true }
  else return .returned done

variable (side : PollSide target)

/-- Run one of the two callbacks. -/
def runCallbackWithPipes (interfaces : InterfaceTable) :
    PollCallback → WithPipes (Handled (CallbackRun target))
  | .statLoop => eachM (pollNodeWithPipes inputs) ⟨side, [], [], false⟩ (StatNode.all target)
  | .networkUpdate => return .returned (side.networkCallback interfaces)

/-- A tick of the timer `t`. -/
def tickWithPipes (t : ℕ) (interfaces : InterfaceTable) : WithPipes (Handled (PollSide target)) :=
  match side.timer.created[t]? with
  | none => return .returned side
  | some timer =>
      if side.timer.runs t then do
        return rearmed t (← side.runCallbackWithPipes inputs interfaces timer.callback)
      else return .returned side

end Loop

end PollSide

/-- What happens to the polling side, with what the getters of a tick are given. -/
inductive PipedEvent (target : Platform) where
  | subscribe (key : StatNode target)
  | unsubscribe (key : StatNode target)
  | subscribeNetwork (interfaces : InterfaceTable)
  | unsubscribeNetwork
  | tick (timer : ℕ) (inputs : GetterInputs target) (interfaces : InterfaceTable)
  | setPollRate (value : Var)
  | network (event : NetworkEvent)

/-- What the getters of a tick return. -/
def PollSide.textsOf (inputs : GetterInputs target) (key : StatNode target) : Option String :=
  (readWithPipes inputs key 0).1

/-- The event, with what the getters return. -/
def PipedEvent.withTexts : PipedEvent target → PollEvent target
  | subscribe key => .subscribe key
  | unsubscribe key => .unsubscribe key
  | subscribeNetwork interfaces => .subscribeNetwork interfaces
  | unsubscribeNetwork => .unsubscribeNetwork
  | tick t inputs interfaces => .tick t (PollSide.textsOf inputs) interfaces
  | setPollRate value => .setPollRate value
  | network event => .network event

/-- The machine of the polling side that is given what the getters return. -/
def textsMachine : Machine (PollSide target) (PipedEvent target) :=
  fun side event => pollMachine side event.withTexts

/-- The machine of the polling side, with the number of open pipes. -/
def pipedMachine : Machine (PollSide target × ℕ) (PipedEvent target) := fun state event =>
  match event with
  | .tick t inputs interfaces =>
      let (handled, pipes) := state.1.tickWithPipes inputs t interfaces state.2
      handled.next.map (·, pipes)
  | event => (pollMachine state.1 event.withTexts).map (·, state.2)

namespace PollSide

/-- The pipes that an event leaves open: at a tick that runs the loop over the stat nodes, those
of the getters of the subscribed nodes that the loop comes to. -/
def leavesOpen (side : PollSide target) : PipedEvent target → List ℕ
  | .tick t inputs _ =>
      if side.timer.runs t ∧ side.timer.callbackOf t = some .statLoop then
        ((StatNode.all target).filter fun key =>
          side.subscribed key && side.comesTo (textsOf inputs) key).map fun key =>
            leftOpenBy (inputs.popens key) target key.1
      else []
  | _ => []

section Loop

variable (inputs : GetterInputs target) {side : PollSide target}

theorem adds_readWithPipes (key : StatNode target) :
    Adds (readWithPipes inputs key) (textsOf inputs key)
      (leftOpenBy (inputs.popens key) target key.1) := by
  obtain ⟨text, adds⟩ :=
    adds_textWithPipes (inputs.popens key) (inputs.texts key) inputs.elsewhere target key.1
  have read := adds.andReturn (Option.map String.ofList)
  rw [textsOf, show (readWithPipes inputs key 0).1 = _ from read.value_eq]
  exact read

/-- One turn of the loop: on a dynamic node it is the turn with what the getter returns. -/
theorem adds_pollNodeWithPipes {keys : List (StatNode target)} {done : CallbackRun target}
    (looped : Looped side (textsOf inputs) keys done) (key : StatNode target) :
    Adds (pollNodeWithPipes inputs done key) (pollNode (textsOf inputs) done key)
      (if side.subscribed key then leftOpenBy (inputs.popens key) target key.1 else 0) := by
  have same : (done.side.nodes key).subscribeState = side.subscribed key := looped.subscribed key
  unfold pollNodeWithPipes pollNode InfoDsLinkNodeBase.getSubsState
  simp only [same]
  cases on : side.subscribed key with
  | false => exact Adds.pure (Handled.returned done)
  | true =>
      have read := adds_readWithPipes inputs key
      simp only [looped.dynamic key, Bool.true_or, if_true]
      cases reads : textsOf inputs key with
      | none =>
          rw [reads] at read
          exact read.bind_pure rfl
      | some text =>
          rw [reads] at read
          exact read.bind_pure rfl

/-- The amounts of the turns on subscribed nodes are the amounts of all turns. -/
theorem sum_filter_subscribed (amount : StatNode target → ℕ) (keys : List (StatNode target)) :
    (keys.map fun key => if side.subscribed key then amount key else 0).sum =
      ((keys.filter side.subscribed).map amount).sum := by
  induction keys with
  | nil => rfl
  | cons key keys ih =>
      rw [List.map_cons, List.sum_cons, ih, List.filter_cons]
      cases side.subscribed key <;> simp

/-- **What the loop over the stat nodes leaves open.** -/
theorem adds_statLoop (side : PollSide target) (dynamic : side.AllDynamic) :
    Adds (eachM (pollNodeWithPipes inputs) ⟨side, [], [], false⟩ (StatNode.all target))
      (side.statCallback (textsOf inputs))
      (((StatNode.all target).filter fun key =>
        side.subscribed key && side.comesTo (textsOf inputs) key).map fun key =>
          leftOpenBy (inputs.popens key) target key.1).sum := by
  have turns : ∀ (done : CallbackRun target) key,
      (∃ keys, Looped side (textsOf inputs) keys done) →
        Adds (pollNodeWithPipes inputs done key) (pollNode (textsOf inputs) done key)
          (if side.subscribed key then leftOpenBy (inputs.popens key) target key.1 else 0) := by
    rintro done key ⟨keys, looped⟩
    exact adds_pollNodeWithPipes inputs looped key
  have loop := adds_eachM _ turns (fun _ _ _ looped turned => Looped.next looped turned)
    (StatNode.all target) ⟨[], looped_start dynamic⟩
  rw [visited_statLoop dynamic, sum_filter_subscribed, List.filter_filter] at loop
  exact loop

/-- **What a tick leaves open**: it is the tick that is given what the getters return, and
leaves open what the getters of the subscribed nodes do that the loop comes to. -/
theorem adds_tickWithPipes (invariant : PollInvariant side) (t : ℕ) (interfaces : InterfaceTable) :
    Adds (side.tickWithPipes inputs t interfaces)
      (side.tick t (textsOf inputs) interfaces)
      (leavesOpen side (.tick t inputs interfaces)).sum := by
  cases live : side.timer.runs t with
  | false =>
      have still : side.tickWithPipes inputs t interfaces = pure (Handled.returned side) := by
        unfold tickWithPipes
        rw [live]
        cases side.timer.created[t]? <;> rfl
      have none : leavesOpen side (.tick t inputs interfaces) = [] := by
        simp [leavesOpen, live]
      rw [still, tick_of_not_runs live, none]
      exact Adds.pure (Handled.returned side)
  | true =>
      obtain ⟨timer, found, -⟩ := TimerSlot.getElem?_of_runs live
      have owner : side.timer.callbackOf t = some timer.callback := by
        simp [TimerSlot.callbackOf, found]
      have ticked : side.tick t (textsOf inputs) interfaces =
          rearmed t (side.runCallback (textsOf inputs) interfaces timer.callback) := by
        simp [tick, tickRun, live, found]
      have callback : Adds (side.runCallbackWithPipes inputs interfaces timer.callback)
          (side.runCallback (textsOf inputs) interfaces timer.callback)
          (leavesOpen side (.tick t inputs interfaces)).sum := by
        cases kind : timer.callback with
        | networkUpdate =>
            have none : leavesOpen side (.tick t inputs interfaces) = [] := by
              simp [leavesOpen, owner, kind]
            rw [none]
            exact Adds.pure (Handled.returned _)
        | statLoop =>
            have turns := adds_statLoop inputs side invariant.dynamic
            simp only [leavesOpen, live, owner, kind, true_and, if_true]
            exact turns
      rw [ticked, tickWithPipes]
      simp only [found, live, if_true]
      exact callback.andReturn (rearmed t)

end Loop

/-! ## Runs -/

/-- One step, with the number of open pipes. -/
theorem pipedMachine_eq {side : PollSide target} (invariant : PollInvariant side) (pipes : ℕ)
    (event : PipedEvent target) :
    pipedMachine (side, pipes) event =
      (textsMachine side event).map fun after => (after, pipes + (leavesOpen side event).sum) := by
  cases event with
  | tick t inputs interfaces =>
      have ticked := adds_tickWithPipes inputs invariant t interfaces pipes
      simp only [pipedMachine, ticked]
      rfl
  | subscribe | unsubscribe | subscribeNetwork | unsubscribeNetwork | setPollRate | network =>
      rfl

/-- **The pipes that polling leaves open.** A run of the polling side is the run that is given
what the getters return, and the pipes that are open after it are those before it and those
that the getters left open which the ticks called. -/
theorem pipes_left_open (pipes : ℕ) (events : List (PipedEvent target)) :
    run pipedMachine (new target, pipes) events =
      (run textsMachine (new target) events).map fun side =>
        (side, pipes + (collected textsMachine leavesOpen (new target) events).sum) :=
  run_counted PollInvariant
    (fun _ _ _ invariant step => (view_step invariant step).invariant)
    (fun _ pipes event invariant => pipedMachine_eq invariant pipes event) pollInvariant_new pipes
    events

end PollSide

end DslinkSystem
