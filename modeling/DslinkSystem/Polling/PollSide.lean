import DslinkSystem.Network.InterfaceNodes
import Mathlib.Data.List.Sort

/-!
# The polling side of the link's node

`InfoDsLinkNode` has a stat node for each reading of the system, the node
`Network_Interfaces`, the node `Poll_Rate`, and one field `_timer` for polling.
Two callbacks may be installed in `_timer`: the loop over the stat nodes, and the
update of the network interfaces. The first subscription that finds no armed
timer decides which one.

The getters of the stat nodes are read from the machine they run on; a tick is
given what they return, and a table for `get_network_interfaces()`. A getter may also
have no result: its exception leaves the loop over the stat nodes.
-/

set_option autoImplicit false

namespace DslinkSystem

open EventRuns TimerSlots

/-! ## The stat nodes -/

/-- The platforms the link is built for. -/
inductive Platform where
  | linux
  | macos
  | windows
  deriving DecidableEq, Repr

/-- The keys of the map `nodes`, in the order of the map. -/
inductive StatKey where
  | architecture
  | cpuFrequency
  | cpuUsage
  | diskUsage
  | freeDiskSpace
  | freeMemory
  | hardwareModel
  | hostname
  | memoryUsage
  | modelName
  | openFiles
  | operatingSystem
  | platform
  | processCount
  | processorCount
  | processorTemp
  | systemTime
  | totalDiskSpace
  | totalMemory
  | usedDiskSpace
  | usedMemory
  | vendor
  deriving DecidableEq, Repr

namespace StatKey

/-- The key as the source spells it. -/
def text : StatKey → String
  | architecture => "architecture"
  | cpuFrequency => "cpu_frequency"
  | cpuUsage => "cpu_usage"
  | diskUsage => "disk_usage"
  | freeDiskSpace => "free_disk_space"
  | freeMemory => "free_memory"
  | hardwareModel => "hardware_model"
  | hostname => "hostname"
  | memoryUsage => "memory_usage"
  | modelName => "model_name"
  | openFiles => "open_files"
  | operatingSystem => "operating_system"
  | platform => "platform"
  | processCount => "process_count"
  | processorCount => "processor_count"
  | processorTemp => "processor_temp"
  | systemTime => "system_time"
  | totalDiskSpace => "total_disk_space"
  | totalMemory => "total_memory"
  | usedDiskSpace => "used_disk_space"
  | usedMemory => "used_memory"
  | vendor => "vendor"

/-- All keys. -/
def all : List StatKey :=
  [architecture, cpuFrequency, cpuUsage, diskUsage, freeDiskSpace, freeMemory, hardwareModel,
    hostname, memoryUsage, modelName, openFiles, operatingSystem, platform, processCount,
    processorCount, processorTemp, systemTime, totalDiskSpace, totalMemory, usedDiskSpace,
    usedMemory, vendor]

theorem mem_all (key : StatKey) : key ∈ all := by cases key <;> decide

/-- The list is in the order of the map: the spellings increase. -/
theorem text_all_increasing : (all.map text).Pairwise (· < ·) := by decide +kernel

/-- `open_files` is left out where `WIN32` is defined. -/
def builtOn (target : Platform) (key : StatKey) : Bool := !(target == .windows && key == openFiles)

end StatKey

/-- A stat node of the link built for a platform, named by its key. -/
abbrev StatNode (target : Platform) := { key : StatKey // key.builtOn target = true }

/-- The stat nodes in the order of the map `nodes`. -/
def StatNode.all (target : Platform) : List (StatNode target) :=
  StatKey.all.filterMap fun key =>
    if built : key.builtOn target = true then some ⟨key, built⟩ else none

theorem StatNode.mem_all {target : Platform} (node : StatNode target) :
    node ∈ StatNode.all target := by
  rw [StatNode.all, List.mem_filterMap]
  exact ⟨node.1, StatKey.mem_all node.1, by simp [node.2]⟩

/-- `cpu_frequency` and `hostname` are built on Linux. -/
def frequencyNode : StatNode .linux := ⟨.cpuFrequency, rfl⟩
def hostnameNode : StatNode .linux := ⟨.hostname, rfl⟩

/-! ## The state -/

/-- The two callbacks that are given to timers of `_timer`. -/
inductive PollCallback where
  | statLoop
  | networkUpdate
  deriving DecidableEq, Repr

/-- The part of `InfoDsLinkNode` that polls. `pollRate` is the value of the node
`Poll_Rate`. -/
structure PollSide (target : Platform) where
  nodes : StatNode target → InfoDsLinkNodeBase
  networkInterfaces : InfoDsLinkNodeNetwork
  pollRate : Var
  timer : TimerSlot PollCallback

namespace PollSide

variable {target : Platform}

/-- The constructor: every node has its subscription callback, the poll rate is
one second, and `_timer` is null. -/
def new (target : Platform) : PollSide target where
  nodes _ := { subsCallback := true }
  networkInterfaces := { subsCallback := true }
  pollRate := .int 1
  timer := .empty

variable (side : PollSide target)

/-! ## `Poll_Rate` -/

/-- `InfoDsLinkNodePollRate::get_value()`: `(int)get_int() * 1000`. The cast keeps
the low 32 bits; so does the product here, where C++ leaves an overflow
undefined. -/
def getValue (value : Var) : Option ℤ := value.getInt.map fun i => (i.toInt32 * 1000).toInt

/-- `InfoDsLinkNodePollRate::on_set_value` with its callback: the value is stored,
then the interval of `_timer` is assigned from it. -/
def onSetValue (value : Var) : Handled (PollSide target) :=
  let side := { side with pollRate := value }
  match getValue side.pollRate with
  | none => .threw side
  | some milliseconds =>
      match side.timer.setInterval milliseconds with
      | none => .stopped side
      | some timer => .returned { side with timer }

/-! ## Subscriptions -/

/-- The subscription callback of the stat nodes. -/
def statSubsCallback : Handled (PollSide target) :=
  (side.timer.ensure (getValue side.pollRate) .statLoop).map fun timer => { side with timer }

/-- The subscription callback of `Network_Interfaces`. -/
def networkSubsCallback : Handled (PollSide target) :=
  (side.timer.ensure (some 1000) .networkUpdate).map fun timer => { side with timer }

/-- Replace a stat node. -/
def setNode (key : StatNode target) (node : InfoDsLinkNodeBase) : PollSide target :=
  { side with nodes := Function.update side.nodes key node }

/-- `InfoDsLinkNodeBase::on_subscribe` of a stat node: the callback, and then the
flag. -/
def onSubscribe (key : StatNode target) : Handled (PollSide target) :=
  (if (side.nodes key).subsCallback then side.statSubsCallback else .returned side).andThen
    fun side => .returned (side.setNode key { side.nodes key with subscribeState := true })

/-- `InfoDsLinkNodeBase::on_unsubscribe` of a stat node. -/
def onUnsubscribe (key : StatNode target) : PollSide target :=
  side.setNode key (side.nodes key).onUnsubscribe

/-- `InfoDsLinkNodeNetwork::on_subscribe`: the flag, the callback, an update, and
an empty value. -/
def onSubscribeNetwork (interfaces : InterfaceTable) : Handled (PollSide target) :=
  let side := { side with
    networkInterfaces := { side.networkInterfaces with subscribeState := true } }
  (if side.networkInterfaces.subsCallback then side.networkSubsCallback else .returned side).andThen
    fun side => .returned { side with
      networkInterfaces := { side.networkInterfaces.reconcile interfaces with value := some "" } }

/-- `InfoDsLinkNodeNetwork::on_unsubscribe`. -/
def onUnsubscribeNetwork : PollSide target :=
  { side with networkInterfaces := { side.networkInterfaces with subscribeState := false } }

end PollSide

/-! ## Ticks -/

/-- A call of `handle_value` that a timer callback makes. -/
inductive HandleCall (target : Platform) where
  | stat (key : StatNode target)
  | network
  deriving DecidableEq

/-- What one run of a timer callback leaves, as far as it got: the node, the calls of
`handle_value` it made, the stat nodes on which `set_value` was called, and `any_subs`. -/
structure CallbackRun (target : Platform) where
  side : PollSide target
  calls : List (HandleCall target)
  sets : List (StatNode target)
  anySubs : Bool

namespace PollSide

variable {target : Platform}

/-- One turn of the loop over `nodes`: `handle_value` calls the getter of a node that is dynamic
or was not updated. `read` gives what the getters return; the exception of a getter that has no
result leaves `handle_value`. -/
def pollNode (read : StatNode target → Option String) (done : CallbackRun target)
    (key : StatNode target) : Handled (CallbackRun target) :=
  let node := done.side.nodes key
  if node.getSubsState then
    let called := { done with calls := done.calls ++ [.stat key] }
    if node.dynamic || (!node.dynamic && !node.isUpdated) then
      match read key with
      | some text => .returned { called with
          side := done.side.setNode key (node.handleValue text)
          sets := done.sets ++ [key]
          anySubs := true }
      | none => .threw called
    else .returned { called with anySubs := true }
  else .returned done

variable (side : PollSide target)

/-- The callback that loops over the stat nodes. -/
def statCallback (read : StatNode target → Option String) : Handled (CallbackRun target) :=
  Handled.each (pollNode read) ⟨side, [], [], false⟩ (StatNode.all target)

/-- The callback that updates the network interfaces. -/
def networkCallback (interfaces : InterfaceTable) : CallbackRun target where
  side := { side with networkInterfaces := side.networkInterfaces.handleValue interfaces }
  calls := [.network]
  sets := []
  anySubs := true

/-- Run one of the two callbacks. -/
def runCallback (read : StatNode target → Option String) (interfaces : InterfaceTable) :
    PollCallback → Handled (CallbackRun target)
  | .statLoop => side.statCallback read
  | .networkUpdate => .returned (side.networkCallback interfaces)

/-- The run of its callback at a tick of the timer `t`. A timer that is not armed
does not tick. -/
def tickRun (t : ℕ) (read : StatNode target → Option String) (interfaces : InterfaceTable) :
    Option (Handled (CallbackRun target)) :=
  if side.timer.runs t then
    (side.timer.created[t]?).map fun timer => side.runCallback read interfaces timer.callback
  else none

/-- What the end of its callback makes of the timer `t`: it stays armed when the callback
returned true. An exception that leaves the callback leaves it disarmed. -/
def rearmed (t : ℕ) : Handled (CallbackRun target) → Handled (PollSide target)
  | .returned done =>
      .returned { done.side with timer := done.side.timer.setRunning t done.anySubs }
  | .threw done => .threw { done.side with timer := done.side.timer.setRunning t false }
  | .stopped done => .stopped done.side

/-- A tick of the timer `t`. -/
def tick (t : ℕ) (read : StatNode target → Option String) (interfaces : InterfaceTable) :
    Handled (PollSide target) :=
  match side.tickRun t read interfaces with
  | none => .returned side
  | some callback => rearmed t callback

end PollSide

/-! ## The machine -/

/-- What happens to the polling side. The last kind of event is what happens to the
children of `Network_Interfaces`. -/
inductive PollEvent (target : Platform) where
  | subscribe (key : StatNode target)
  | unsubscribe (key : StatNode target)
  | subscribeNetwork (interfaces : InterfaceTable)
  | unsubscribeNetwork
  | tick (timer : ℕ) (read : StatNode target → Option String) (interfaces : InterfaceTable)
  | setPollRate (value : Var)
  | network (event : NetworkEvent)

namespace PollEvent

variable {target : Platform}

/-- The event is a subscription. -/
def isSubscribe : PollEvent target → Bool
  | subscribe _ | subscribeNetwork _ => true
  | _ => false

/-- The event is a write to `Poll_Rate`. -/
def isWrite : PollEvent target → Bool
  | setPollRate _ => true
  | _ => false

/-- The handling of one event. -/
def handle (side : PollSide target) : PollEvent target → Handled (PollSide target)
  | subscribe key => side.onSubscribe key
  | unsubscribe key => .returned (side.onUnsubscribe key)
  | subscribeNetwork interfaces => side.onSubscribeNetwork interfaces
  | unsubscribeNetwork => .returned side.onUnsubscribeNetwork
  | tick t read interfaces => side.tick t read interfaces
  | setPollRate value => side.onSetValue value
  | network event => (event.handle side.networkInterfaces).map fun networkInterfaces =>
      { side with networkInterfaces }

end PollEvent

/-- The machine of the polling side. -/
def pollMachine {target : Platform} : Machine (PollSide target) (PollEvent target) :=
  fun side event => (event.handle side).next

end DslinkSystem
