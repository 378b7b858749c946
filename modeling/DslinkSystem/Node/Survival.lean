import DslinkSystem.Network.HostUpdates
import DslinkSystem.Node.InfoDsLinkNode

/-!
# Which runs the node survives

The machine of the node takes the removal loop of `update_value()` to drop exactly the
names that vanished. In the source the loop goes on from an element it erased. Here the
node runs with the loop of the source, in each of the places from which it is called: a
subscription of `Network_Interfaces`, a tick of the timer whose callback updates the
interfaces, and the updates themselves.

The node with the loop of the source has no run that the node with the intended loop has
not, and it has exactly those in which no table that is read lacks a name of the table
read before it (`survives_iff`).
-/

set_option autoImplicit false

namespace DslinkSystem

open EventRuns TimerSlots

variable {target : Platform}

/-! ## The node with the loop of the source -/

/-- `InfoDsLinkNodeNetwork::handle_value()`. -/
def InfoDsLinkNodeNetwork.handled (network : InfoDsLinkNodeNetwork)
    (interfaces : InterfaceTable) : Handled InfoDsLinkNodeNetwork :=
  if network.dynamic || (!network.dynamic && !network.isUpdated) then
    (network.updated interfaces).andThen fun network => .returned { network with isUpdated := true }
  else .returned network

namespace PollSide

variable (side : PollSide target)

/-- The network of the side, after a statement on it. -/
def onNetwork (statement : InfoDsLinkNodeNetwork → Handled InfoDsLinkNodeNetwork) :
    Handled (PollSide target) :=
  (statement side.networkInterfaces).map fun networkInterfaces => { side with networkInterfaces }

/-- `InfoDsLinkNodeNetwork::on_subscribe`. -/
def subscribeNetworkReal (interfaces : InterfaceTable) : Handled (PollSide target) :=
  let side := { side with
    networkInterfaces := { side.networkInterfaces with subscribeState := true } }
  (if side.networkInterfaces.subsCallback then side.networkSubsCallback else .returned side).andThen
    fun side => side.onNetwork fun network =>
      (network.updated interfaces).andThen fun network =>
        .returned { network with value := some "" }

/-- A tick of the timer `t`. -/
def tickReal (t : ℕ) (read : StatNode target → Option String) (interfaces : InterfaceTable) :
    Handled (PollSide target) :=
  if side.timer.runs t ∧ side.timer.callbackOf t = some .networkUpdate then
    (side.onNetwork (·.handled interfaces)).andThen fun side =>
      .returned { side with timer := side.timer.setRunning t true }
  else side.tick t read interfaces

/-- The table that the handling of an event reads. -/
def tableRead (side : PollSide target) : PollEvent target → Option InterfaceTable
  | .subscribeNetwork interfaces => some interfaces
  | .tick t _ interfaces =>
      if side.timer.runs t ∧ side.timer.callbackOf t = some .networkUpdate then some interfaces
      else none
  | .network (.updateValue interfaces) => some interfaces
  | _ => none

end PollSide

/-- The handling of one event. -/
def PollEvent.handleReal (side : PollSide target) : PollEvent target → Handled (PollSide target)
  | subscribeNetwork interfaces => side.subscribeNetworkReal interfaces
  | tick t read interfaces => side.tickReal t read interfaces
  | network event => side.onNetwork event.handleReal
  | event => event.handle side

/-- The handling of one event of the node. -/
def NodeEvent.handleReal (node : InfoDsLinkNode target) :
    NodeEvent target → Handled (InfoDsLinkNode target)
  | poll event =>
      if node.commands.waiting = none then
        (event.handleReal node.poll).map fun poll => { node with poll }
      else .returned node
  | command event => (event.handle node.commands).map fun commands => { node with commands }

/-- The machine of the node with the loop of the source. -/
def realNodeMachine : Machine (InfoDsLinkNode target) (NodeEvent target) :=
  fun node event => (event.handleReal node).next

/-- The table that the handling of an event of the node reads. -/
def InfoDsLinkNode.tableRead (node : InfoDsLinkNode target) :
    NodeEvent target → Option InterfaceTable
  | .poll event => if node.commands.waiting = none then node.poll.tableRead event else none
  | .command _ => none

/-! ## The polling side -/

namespace PollSide

variable {side after : PollSide target} {table : InterfaceTable}

/-- The children of `Network_Interfaces` are those of a table. -/
structure ChildrenOf (table : InterfaceTable) (side : PollSide target) : Prop where
  invariant : side.PollInvariant
  dynamic : side.networkInterfaces.dynamic = true
  serving : ∃ served, InfoDsLinkNodeNetwork.Serving served side.networkInterfaces
  names : ∀ name, name ∈ side.networkInterfaces.networkNodes ↔ name ∈ table

theorem childrenOf_new : ChildrenOf ∅ (new target) where
  invariant := pollInvariant_new
  dynamic := rfl
  serving := ⟨∅, serving_congr .new rfl rfl rfl rfl⟩
  names name := by simp [new]

theorem ChildrenOf.wf (children : ChildrenOf table side) :
    side.networkInterfaces.WellFormed := by
  obtain ⟨served, serving⟩ := children.serving
  exact serving.wf

/-- Whether the new table keeps the names of the children. -/
theorem ChildrenOf.keeps_iff (children : ChildrenOf table side) (interfaces : InterfaceTable) :
    (∀ name ∈ side.networkInterfaces.networkNodes, name ∈ interfaces) ↔
      InfoDsLinkNodeNetwork.keepsNames table interfaces := by
  simp only [children.names]
  exact Iff.rfl

theorem dynamic_reconcile (network : InfoDsLinkNodeNetwork) (interfaces : InterfaceTable) :
    (network.reconcile interfaces).dynamic = network.dynamic := by
  rw [InfoDsLinkNodeNetwork.reconcile_frame]

/-- A step that leaves the children the names they have. -/
theorem ChildrenOf.of_same (children : ChildrenOf table side) {event : PollEvent target}
    (step : pollMachine side event = some after)
    (nodes : after.networkInterfaces.networkNodes = side.networkInterfaces.networkNodes)
    (dynamic : after.networkInterfaces.dynamic = side.networkInterfaces.dynamic) :
    ChildrenOf table after where
  invariant := (view_step children.invariant step).invariant
  dynamic := dynamic.trans children.dynamic
  serving := serving_step children.invariant children.serving step
  names name := by rw [nodes, children.names]

/-- A step that reads a table and makes the children those of the table. -/
theorem ChildrenOf.of_read (children : ChildrenOf table side) {event : PollEvent target}
    (step : pollMachine side event = some after) {network : InfoDsLinkNodeNetwork}
    (wf : network.WellFormed) {interfaces : InterfaceTable}
    (nodes : after.networkInterfaces.networkNodes = (network.reconcile interfaces).networkNodes)
    (dynamic : after.networkInterfaces.dynamic = true) : ChildrenOf interfaces after where
  invariant := (view_step children.invariant step).invariant
  dynamic := dynamic
  serving := serving_step children.invariant children.serving step
  names name := by
    rw [nodes]
    exact InfoDsLinkNodeNetwork.mem_networkNodes_reconcile interfaces wf name

/-- An update of the network of a side, as a statement. -/
theorem updated_andThen {network : InfoDsLinkNodeNetwork} (wf : network.WellFormed)
    (interfaces : InterfaceTable)
    {rest : InfoDsLinkNodeNetwork → InfoDsLinkNodeNetwork} :
    ((∀ name ∈ network.networkNodes, name ∈ interfaces) ∧
      ((network.updated interfaces).andThen fun network => .returned (rest network)) =
        .returned (rest (network.reconcile interfaces))) ∨
    (¬ (∀ name ∈ network.networkNodes, name ∈ interfaces) ∧
      ∃ left, ((network.updated interfaces).andThen fun network => .returned (rest network)) =
        .stopped left) := by
  rcases InfoDsLinkNodeNetwork.updated_cases wf interfaces with ⟨stay, same⟩ | ⟨vanish, left, same⟩
  · exact .inl ⟨stay, by rw [same, Handled.returned_andThen]⟩
  · exact .inr ⟨vanish, left, by rw [same, Handled.stopped_andThen]⟩

/-- What a step of the code owes: it is the intended step when the names stay, and stops
the program when they do not. -/
structure Real (side : PollSide target) (event : PollEvent target) (table : InterfaceTable)
    (after : PollSide target) : Prop where
  goes : (∀ interfaces, side.tableRead event = some interfaces →
    InfoDsLinkNodeNetwork.keepsNames table interfaces) →
      (event.handleReal side).next = some after
  stops : ¬ (∀ interfaces, side.tableRead event = some interfaces →
    InfoDsLinkNodeNetwork.keepsNames table interfaces) → (event.handleReal side).next = none
  children : ChildrenOf ((side.tableRead event).getD table) after

/-- A step that reads no table is the intended one. -/
theorem Real.of_none {event : PollEvent target} (none_read : side.tableRead event = none)
    (same : (event.handleReal side).next = some after) (children : ChildrenOf table after) :
    Real side event table after where
  goes _ := same
  stops fails := absurd (by simp [none_read]) fails
  children := by rw [none_read]; exact children

/-- A step that reads a table is the intended one when the table keeps the names. -/
theorem Real.of_some {event : PollEvent target} {interfaces : InterfaceTable}
    (read : side.tableRead event = some interfaces)
    (outcome : (InfoDsLinkNodeNetwork.keepsNames table interfaces ∧
        (event.handleReal side).next = some after) ∨
      (¬ InfoDsLinkNodeNetwork.keepsNames table interfaces ∧ (event.handleReal side).next = none))
    (children : ChildrenOf interfaces after) : Real side event table after where
  goes keeps := by
    rcases outcome with ⟨-, same⟩ | ⟨vanish, -⟩
    · exact same
    · exact absurd (keeps interfaces read) vanish
  stops fails := by
    rcases outcome with ⟨stay, -⟩ | ⟨-, same⟩
    · refine absurd (fun other found => ?_) fails
      rw [read] at found
      exact Option.some.inj found ▸ stay
    · exact same
  children := by rw [read]; exact children

/-- The subscription callback of `Network_Interfaces` returns. -/
theorem networkSubsCallback_returned (side : PollSide target) :
    ∃ timer, side.networkSubsCallback = .returned { side with timer } := by
  rw [networkSubsCallback, TimerSlot.ensure_eq]
  split
  · exact ⟨side.timer, rfl⟩
  · exact ⟨_, rfl⟩

theorem subscribeNetwork_real (children : ChildrenOf table side) (interfaces : InterfaceTable)
    (step : pollMachine side (.subscribeNetwork interfaces) = some after) :
    Real side (.subscribeNetwork interfaces) table after := by
  have wf : ({ side.networkInterfaces with subscribeState := true } :
      InfoDsLinkNodeNetwork).WellFormed :=
    ⟨children.wf.created, children.wf.distinct, children.wf.listed⟩
  have callback : ({ side.networkInterfaces with subscribeState := true } :
      InfoDsLinkNodeNetwork).subsCallback = true := children.invariant.networkCallback
  obtain ⟨timer, returned⟩ := networkSubsCallback_returned
    { side with networkInterfaces := { side.networkInterfaces with subscribeState := true } }
  have ideal : after = { side with
      networkInterfaces := { ({ side.networkInterfaces with subscribeState := true } :
        InfoDsLinkNodeNetwork).reconcile interfaces with value := some "" }
      timer } := by
    simp only [pollMachine, PollEvent.handle, onSubscribeNetwork] at step
    rw [if_pos callback, returned, Handled.returned_andThen] at step
    exact (Option.some.inj step).symm
  refine .of_some rfl ?_ (children.of_read step wf ?_ ?_)
  · rw [← children.keeps_iff]
    simp only [PollEvent.handleReal, subscribeNetworkReal]
    rw [if_pos callback, returned, Handled.returned_andThen, onNetwork]
    rcases updated_andThen wf interfaces with ⟨stay, same⟩ | ⟨vanish, left, same⟩
    · exact .inl ⟨stay, by rw [same, ideal]; rfl⟩
    · exact .inr ⟨vanish, by rw [same]; rfl⟩
  · rw [ideal]
  · rw [ideal]
    exact (dynamic_reconcile _ _).trans children.dynamic

theorem tick_real (children : ChildrenOf table side) (t : ℕ)
    (read : StatNode target → Option String) (interfaces : InterfaceTable)
    (step : pollMachine side (.tick t read interfaces) = some after) :
    Real side (.tick t read interfaces) table after := by
  by_cases updates : side.timer.runs t = true ∧ side.timer.callbackOf t = some .networkUpdate
  · obtain ⟨timer, found, kind⟩ := Option.map_eq_some_iff.mp updates.2
    have handled : after = { side with
        networkInterfaces := { side.networkInterfaces.reconcile interfaces with isUpdated := true }
        timer := side.timer.setRunning t true } := by
      have ticked : side.tick t read interfaces = rearmed t (.returned
          (side.networkCallback interfaces)) := by
        simp [tick, tickRun, updates.1, found, kind, runCallback]
      rw [pollMachine, PollEvent.handle, ticked] at step
      obtain rfl := Option.some.inj step
      simp [networkCallback, InfoDsLinkNodeNetwork.handleValue, children.dynamic]
    refine .of_some (if_pos updates) ?_ (children.of_read step children.wf ?_ ?_)
    · rw [← children.keeps_iff]
      simp only [PollEvent.handleReal, tickReal]
      rw [if_pos updates, onNetwork, InfoDsLinkNodeNetwork.handled, children.dynamic]
      rcases updated_andThen children.wf interfaces with ⟨stay, same⟩ | ⟨vanish, left, same⟩
      · exact .inl ⟨stay, by rw [if_pos (by rfl), same, handled]; rfl⟩
      · exact .inr ⟨vanish, by rw [if_pos (by rfl), same]; rfl⟩
    · rw [handled]
    · rw [handled]
      exact (dynamic_reconcile _ _).trans children.dynamic
  · have same : after.networkInterfaces = side.networkInterfaces := by
      obtain ⟨-, rfl⟩ | ⟨callback, live, -, owner, rfl⟩ := tick_cases children.invariant step
      · rfl
      · cases callback with
        | networkUpdate => exact absurd ⟨live, owner⟩ updates
        | statLoop => exact networkInterfaces_statCallback children.invariant.dynamic read
    refine .of_none (if_neg updates) ?_ (children.of_same step (by rw [same]) (by rw [same]))
    simp only [PollEvent.handleReal, tickReal]
    rw [if_neg updates]
    exact step

theorem network_real (children : ChildrenOf table side) (event : NetworkEvent)
    (step : pollMachine side (.network event) = some after) :
    Real side (.network event) table after := by
  have moved := step
  rw [pollMachine, PollEvent.handle, Handled.next_map, Option.map_eq_some_iff] at moved
  obtain ⟨network, handled, rfl⟩ := moved
  -- an event that is no update is handled as it is meant
  have other : (∀ interfaces, event ≠ .updateValue interfaces) →
      event.handleReal side.networkInterfaces = event.handle side.networkInterfaces →
      side.tableRead (.network event) = none →
        Real side (.network event) table { side with networkInterfaces := network } := by
    intro noUpdate same none_read
    obtain ⟨nodes, dynamic⟩ := InfoDsLinkNodeNetwork.networkNodes_networkMachine noUpdate handled
    refine .of_none none_read ?_ (children.of_same step nodes dynamic)
    rw [PollEvent.handleReal, onNetwork, same, Handled.next_map, handled]
    rfl
  cases event with
  | subscribeChild child => exact other (by simp) rfl rfl
  | unsubscribeChild child => exact other (by simp) rfl rfl
  | tick t => exact other (by simp) rfl rfl
  | updateValue interfaces =>
      obtain rfl := Option.some.inj handled
      refine .of_some rfl ?_ (children.of_read step children.wf rfl ?_)
      · rw [← children.keeps_iff]
        simp only [PollEvent.handleReal, onNetwork, NetworkEvent.handleReal]
        rcases InfoDsLinkNodeNetwork.updated_cases children.wf interfaces with
          ⟨stay, same⟩ | ⟨vanish, left, same⟩
        · exact .inl ⟨stay, by rw [same]; rfl⟩
        · exact .inr ⟨vanish, by rw [same]; rfl⟩
      · exact (dynamic_reconcile _ _).trans children.dynamic

/-- **A step of the polling side as the code is.** -/
theorem poll_real (children : ChildrenOf table side) {event : PollEvent target}
    (step : pollMachine side event = some after) : Real side event table after := by
  cases event with
  | subscribeNetwork interfaces => exact subscribeNetwork_real children interfaces step
  | tick t read interfaces => exact tick_real children t read interfaces step
  | network event => exact network_real children event step
  | subscribe key =>
      have same := (onSubscribe_next children.invariant step).2
      exact .of_none rfl step (children.of_same step (by rw [same]) (by rw [same]))
  | unsubscribe key =>
      have same : after.networkInterfaces = side.networkInterfaces := Option.some.inj step ▸ rfl
      exact .of_none rfl step (children.of_same step (by rw [same]) (by rw [same]))
  | unsubscribeNetwork =>
      obtain rfl := Option.some.inj step
      exact .of_none rfl rfl (children.of_same step rfl rfl)
  | setPollRate value =>
      rcases onSetValue_next step with rfl | ⟨_, _, -, rfl⟩
      · exact .of_none rfl step (children.of_same step rfl rfl)
      · exact .of_none rfl step (children.of_same step rfl rfl)

/-- Where the intended step stops the program, so does the step of the code. -/
theorem poll_none_of_none {event : PollEvent target} (children : ChildrenOf table side)
    (stops : pollMachine side event = none) : (event.handleReal side).next = none := by
  cases write : event.isWrite with
  | false =>
      obtain ⟨after, moved⟩ := goes_on children.invariant write
      rw [stops] at moved
      cases moved
  | true =>
      cases event with
      | setPollRate value => exact stops
      | _ => cases write

end PollSide

/-! ## Runs of the node -/

namespace InfoDsLinkNode

variable {node after : InfoDsLinkNode target} {table : InterfaceTable}

/-- The table that the handling of an event reads keeps the names of a table. -/
def readKeeps (table : InterfaceTable) (node : InfoDsLinkNode target) (event : NodeEvent target) :
    Prop :=
  ∀ interfaces, node.tableRead event = some interfaces →
    InfoDsLinkNodeNetwork.keepsNames table interfaces

/-- **A step of the node as the code is**: the intended step when the table that is read
keeps the names, and none when it does not. -/
theorem node_real (children : PollSide.ChildrenOf table node.poll) {event : NodeEvent target}
    (step : nodeMachine node event = some after) :
    (readKeeps table node event → realNodeMachine node event = some after) ∧
      (¬ readKeeps table node event → realNodeMachine node event = none) ∧
      PollSide.ChildrenOf ((node.tableRead event).getD table) after.poll := by
  cases event with
  | command event =>
      rw [nodeMachine_command] at step
      obtain ⟨commands, moved, rfl⟩ := Option.map_eq_some_iff.mp step
      refine ⟨fun _ => ?_, fun fails => absurd (fun _ found => by cases found) fails, children⟩
      rw [realNodeMachine, NodeEvent.handleReal, Handled.next_map]
      exact Option.map_eq_some_iff.mpr ⟨commands, moved, rfl⟩
  | poll event =>
      rw [nodeMachine_poll] at step
      by_cases free : node.commands.waiting = none
      · rw [if_pos free] at step
        obtain ⟨poll, moved, rfl⟩ := Option.map_eq_some_iff.mp step
        have real := PollSide.poll_real children moved
        simp only [realNodeMachine, NodeEvent.handleReal, readKeeps, tableRead, if_pos free,
          Handled.next_map]
        refine ⟨fun keeps => ?_, fun fails => ?_, real.children⟩
        · rw [real.goes keeps]
          rfl
        · rw [real.stops fails]
          rfl
      · rw [if_neg free] at step
        obtain rfl := Option.some.inj step
        simp only [realNodeMachine, NodeEvent.handleReal, readKeeps, tableRead, if_neg free]
        exact ⟨fun _ => rfl, fun fails => absurd (fun _ found => by cases found) fails, children⟩

/-- Where the intended step stops the program, so does the step of the code. -/
theorem node_none_of_none (children : PollSide.ChildrenOf table node.poll)
    {event : NodeEvent target} (stops : nodeMachine node event = none) :
    realNodeMachine node event = none := by
  cases event with
  | command event => exact stops
  | poll event =>
      rw [nodeMachine_poll] at stops
      by_cases free : node.commands.waiting = none
      · rw [if_pos free, Option.map_eq_none_iff] at stops
        rw [realNodeMachine, NodeEvent.handleReal, if_pos free, Handled.next_map,
          PollSide.poll_none_of_none children stops]
        rfl
      · rw [if_neg free] at stops
        cases stops

/-- The node as the code is takes no step that the intended one does not take. -/
theorem node_of_real (children : PollSide.ChildrenOf table node.poll) {event : NodeEvent target}
    (step : realNodeMachine node event = some after) : nodeMachine node event = some after := by
  cases ideal : nodeMachine node event with
  | none =>
      rw [node_none_of_none children ideal] at step
      cases step
  | some other =>
      obtain ⟨goes, stops, -⟩ := node_real children ideal
      by_cases keeps : readKeeps table node event
      · exact (goes keeps).symm.trans step
      · rw [stops keeps] at step
        cases step

/-- The tables that a run of the node reads, in order. -/
def tablesRead (start : InfoDsLinkNode target) (events : List (NodeEvent target)) :
    List InterfaceTable :=
  collected nodeMachine (fun node event => (node.tableRead event).toList) start events

/-- Every table keeps the names of the empty one. -/
theorem isChain_empty_cons (tables : List InterfaceTable) :
    (∅ :: tables).IsChain InfoDsLinkNodeNetwork.keepsNames ↔
      tables.IsChain InfoDsLinkNodeNetwork.keepsNames := by
  cases tables with
  | nil => simp
  | cons first rest =>
      rw [List.isChain_cons_cons]
      exact and_iff_right fun name member => by simp at member

/-- **Which runs the node survives.** With the removal loop of the source, a new node gets
to a state by exactly those runs by which the intended node gets there and in which no
table that is read lacks a name of the table read before it. -/
theorem survives_iff (execPath arguments : String) (events : List (NodeEvent target))
    (node : InfoDsLinkNode target) :
    run realNodeMachine (new target execPath arguments) events = some node ↔
      run nodeMachine (new target execPath arguments) events = some node ∧
        (tablesRead (new target execPath arguments) events).IsChain
          InfoDsLinkNodeNetwork.keepsNames := by
  have in_line : ∀ (table : InterfaceTable) (node : InfoDsLinkNode target) event after,
      PollSide.ChildrenOf table node.poll → nodeMachine node event = some after →
        (realNodeMachine node event = some after ↔ ∀ interfaces,
            node.tableRead event = some interfaces →
              InfoDsLinkNodeNetwork.keepsNames table interfaces) ∧
          PollSide.ChildrenOf ((node.tableRead event).getD table) after.poll := by
    intro table node event after children step
    obtain ⟨goes, stops, kept⟩ := node_real children step
    refine ⟨⟨fun moved => ?_, goes⟩, kept⟩
    by_contra fails
    rw [stops fails] at moved
    cases moved
  rw [← isChain_empty_cons]
  exact run_iff_chain
    (fun (table : InterfaceTable) (node : InfoDsLinkNode target) =>
      PollSide.ChildrenOf table node.poll)
    (fun _ _ _ _ children step => node_of_real children step) in_line PollSide.childrenOf_new
    events node

end InfoDsLinkNode

end DslinkSystem
