import DslinkSystem.BaseNodes
import DslinkSystem.Library.MapCursor
import DslinkSystem.Library.TimerSlots

/-!
# The node `Network_Interfaces` and its children

`InfoDsLinkNodeNetwork` keeps one child for each network interface. A child is
an object of its own: a client may hold on to a child after the node dropped it.
So the children ever created are kept in order of creation, and the map
`networkNodes` and the list children of the SDK name them by their place in that
order.

`updateValue` brings the children in line with a table of interfaces. Its first
loop runs over the table and creates and updates children. Its second loop runs
over `networkNodes` and erases from it on the way; it is a walk with an iterator
that may become invalid. `reconcile` is the outcome meant by it, with the
removal loop taken to drop exactly the vanished names.
-/

set_option autoImplicit false

namespace DslinkSystem

open EventRuns TimerSlots MapCursor

/-- A table of `get_network_interfaces()`: interface names to address lists. -/
abbrev InterfaceTable := Std.ExtTreeMap String String

/-- `InfoDsLinkNodeNetworkInterfaces`, the child for one interface. -/
structure InfoDsLinkNodeNetworkInterfaces extends InfoDsLinkNodeBase where
  interface : String := ""
  deriving DecidableEq, Repr

namespace InfoDsLinkNodeNetworkInterfaces

/-- `update_value()`: publish the stored interface string. -/
def updateValue (child : InfoDsLinkNodeNetworkInterfaces) : InfoDsLinkNodeNetworkInterfaces :=
  { child with value := some child.interface }

/-- `set_interface_value(interface)`. -/
def setInterfaceValue (interface : String) (child : InfoDsLinkNodeNetworkInterfaces) :
    InfoDsLinkNodeNetworkInterfaces :=
  { child with interface }

end InfoDsLinkNodeNetworkInterfaces

/-- `InfoDsLinkNodeNetwork`. The callback of its timer is always the same, so
the timers carry none. -/
structure InfoDsLinkNodeNetwork where
  subscribeState : Bool := false
  dynamic : Bool := true
  isUpdated : Bool := false
  subsCallback : Bool := false
  value : Option String := none
  networkNodes : Std.ExtTreeMap String ℕ := ∅
  listChildren : Std.ExtTreeMap String ℕ := ∅
  children : List InfoDsLinkNodeNetworkInterfaces := []
  networkTimer : TimerSlot Unit := .empty

namespace InfoDsLinkNodeNetwork

variable (network : InfoDsLinkNodeNetwork)

/-- The child that `networkNodes` has under a name. -/
def childAt (name : String) : Option InfoDsLinkNodeNetworkInterfaces :=
  network.networkNodes[name]?.bind (network.children[·]?)

/-! ## `update_value` -/

/-- `network_nodes[name] = add_list_child(name, make_ref_<...>(...))` and
`network_nodes[name]->set_subs_callback(...)`. -/
def addChild (name : String) : InfoDsLinkNodeNetwork :=
  { network with
    networkNodes := network.networkNodes.insert name network.children.length
    listChildren := network.listChildren.insert name network.children.length
    children := network.children ++ [{ subsCallback := true }] }

/-- `network_nodes[name]->set_interface_value(interface)`. -/
def setInterface (name interface : String) : InfoDsLinkNodeNetwork :=
  match network.networkNodes[name]? with
  | some child =>
      { network with children := network.children.modify child (·.setInterfaceValue interface) }
  | none => network

/-- One turn of the loop over the table. -/
def updateEntry (entry : String × String) : InfoDsLinkNodeNetwork :=
  let network := if network.networkNodes[entry.1]? = none then network.addChild entry.1 else network
  network.setInterface entry.1 entry.2

/-- The loop over the table. -/
def updateEntries (interfaces : InterfaceTable) : InfoDsLinkNodeNetwork :=
  interfaces.toList.foldl updateEntry network

/-- One turn of the loop over `network_nodes`. -/
def removeAbsent (interfaces : InterfaceTable) (name : String) : InfoDsLinkNodeNetwork :=
  if name ∈ interfaces then network
  else
    { network with
      listChildren := network.listChildren.erase name
      networkNodes := network.networkNodes.erase name }

/-- `update_value()` on a table. The second loop advances an iterator whose
element its body may have erased. -/
def updateValue (interfaces : InterfaceTable) : Walk InfoDsLinkNodeNetwork :=
  let updated := network.updateEntries interfaces
  walk networkNodes (removeAbsent · interfaces) updated.networkNodes.size updated
    (begin updated.networkNodes)

/-- The outcome meant by `update_value()`: the removal loop drops exactly the
names that are not in the table. -/
def reconcile (interfaces : InterfaceTable) : InfoDsLinkNodeNetwork :=
  let updated := network.updateEntries interfaces
  updated.networkNodes.keys.foldl (removeAbsent · interfaces) updated

/-- `handle_value()`, with the outcome meant by `update_value()`. -/
def handleValue (interfaces : InterfaceTable) : InfoDsLinkNodeNetwork :=
  if network.dynamic || (!network.dynamic && !network.isUpdated) then
    { network.reconcile interfaces with isUpdated := true }
  else network

/-! ## Subscriptions and the timer of the children -/

/-- The subscription callback of every child: keep `network_timer` running. -/
def childSubsCallback : Handled InfoDsLinkNodeNetwork :=
  (network.networkTimer.ensure (some 1000) ()).map fun networkTimer =>
    { network with networkTimer }

/-- Set or clear the subscription flag of a child. -/
def setSubscribed (child : ℕ) (subscribeState : Bool) : InfoDsLinkNodeNetwork :=
  { network with children := network.children.modify child fun c => { c with subscribeState } }

/-- `on_subscribe` of a child: the callback, and then the flag. -/
def onSubscribeChild (child : ℕ) : Handled InfoDsLinkNodeNetwork :=
  match network.children[child]? with
  | none => .returned network
  | some c =>
      (if c.subsCallback then network.childSubsCallback else .returned network).andThen
        fun network => .returned (network.setSubscribed child true)

/-- `on_unsubscribe` of a child. -/
def onUnsubscribeChild (child : ℕ) : InfoDsLinkNodeNetwork := network.setSubscribed child false

/-- One turn of the loop in the callback of `network_timer`, with `any_subs`. -/
def serveChild (served : InfoDsLinkNodeNetwork × Bool) (name : String) :
    InfoDsLinkNodeNetwork × Bool :=
  match served.1.networkNodes[name]? with
  | none => served
  | some child =>
      if (served.1.children[child]?).any (·.getSubsState) then
        ({ served.1 with children := served.1.children.modify child (·.updateValue) }, true)
      else served

/-- The callback of `network_timer`. -/
def timerCallback : InfoDsLinkNodeNetwork × Bool :=
  network.networkNodes.keys.foldl serveChild (network, false)

/-- A tick of the timer `t`. A timer that is not armed does not tick. -/
def networkTick (t : ℕ) : InfoDsLinkNodeNetwork :=
  if network.networkTimer.runs t then
    let served := network.timerCallback
    { served.1 with networkTimer := served.1.networkTimer.setRunning t served.2 }
  else network

end InfoDsLinkNodeNetwork

/-- What happens to the node and to the children ever created. -/
inductive NetworkEvent where
  | updateValue (interfaces : InterfaceTable)
  | subscribeChild (child : ℕ)
  | unsubscribeChild (child : ℕ)
  | tick (timer : ℕ)

/-- The handling of one event. -/
def NetworkEvent.handle (network : InfoDsLinkNodeNetwork) :
    NetworkEvent → Handled InfoDsLinkNodeNetwork
  | updateValue interfaces => .returned (network.reconcile interfaces)
  | subscribeChild child => network.onSubscribeChild child
  | unsubscribeChild child => .returned (network.onUnsubscribeChild child)
  | tick timer => .returned (network.networkTick timer)

/-- The machine of `Network_Interfaces` and its children. -/
def networkMachine : Machine InfoDsLinkNodeNetwork NetworkEvent :=
  fun network event => (event.handle network).next

end DslinkSystem
