import Mathlib.Data.List.Basic

/-!
# Values and base nodes

`Var` is the value type of the SDK, as far as the handlers of the link look at
it. `InfoDsLinkNodeBase` is the node class that the stat nodes and the children
of `Network_Interfaces` share: a subscription flag, a subscription callback, and
a value that is read again when the node is handled.
-/

set_option autoImplicit false

namespace DslinkSystem

/-- A value of the SDK. -/
inductive Var where
  | null
  | bool (value : Bool)
  | int (value : Int64)
  | double (bits : UInt64)
  | string (value : String)
  | binary (bytes : List UInt8)
  | array (items : List Var)
  | map (entries : List (String × Var))

namespace Var

/-- `is_null()`. -/
def isNull : Var → Bool
  | null => true
  | _ => false

/-- The entry under a key of a map. A value that is no map has none. -/
def find (key : String) : Var → Option Var
  | map entries => entries.lookup key
  | _ => none

/-- `is_map() && get_map().find("cmd") != get_map().end()`. -/
def hasCmd (v : Var) : Bool := (v.find "cmd").isSome

/-- The string under `cmd`, when `v["cmd"].get_type()` is `STRING`. -/
def cmdString (v : Var) : Option String :=
  match v.find "cmd" with
  | some (string cmd) => some cmd
  | _ => none

/-- `get_int()`, which throws on a value that is no integer. -/
def getInt : Var → Option Int64
  | int value => some value
  | _ => none

/-- A value with a string under `cmd` is a map with an entry under `cmd`. -/
theorem hasCmd_of_cmdString {v : Var} {cmd : String} (given : v.cmdString = some cmd) :
    v.hasCmd = true := by
  cases found : v.find "cmd" with
  | none => simp [cmdString, found] at given
  | some entry => simp [hasCmd, found]

end Var

/-- `InfoDsLinkNodeBase`. Of the subscription callback only whether one is set
is recorded here; the class that installs it says what it does. -/
structure InfoDsLinkNodeBase where
  subscribeState : Bool := false
  dynamic : Bool := true
  isUpdated : Bool := false
  subsCallback : Bool := false
  value : Option String := none
  deriving DecidableEq, Repr

namespace InfoDsLinkNodeBase

/-- `get_subs_state()`. -/
def getSubsState (node : InfoDsLinkNodeBase) : Bool := node.subscribeState

/-- `InfoDsLinkNodeTemplate::update_value`: publish what the getter returned. -/
def updateValue (read : String) (node : InfoDsLinkNodeBase) : InfoDsLinkNodeBase :=
  { node with value := some read }

/-- `handle_value()`. -/
def handleValue (read : String) (node : InfoDsLinkNodeBase) : InfoDsLinkNodeBase :=
  if node.dynamic || (!node.dynamic && !node.isUpdated) then
    { node.updateValue read with isUpdated := true }
  else node

/-- `on_unsubscribe()`. -/
def onUnsubscribe (node : InfoDsLinkNodeBase) : InfoDsLinkNodeBase :=
  { node with subscribeState := false }

/-- Handling a node leaves its subscription alone. -/
@[simp] theorem subscribeState_handleValue (read : String) (node : InfoDsLinkNodeBase) :
    (node.handleValue read).subscribeState = node.subscribeState := by
  unfold handleValue
  split <;> rfl

@[simp] theorem dynamic_handleValue (read : String) (node : InfoDsLinkNodeBase) :
    (node.handleValue read).dynamic = node.dynamic := by
  unfold handleValue
  split <;> rfl

@[simp] theorem subsCallback_handleValue (read : String) (node : InfoDsLinkNodeBase) :
    (node.handleValue read).subsCallback = node.subsCallback := by
  unfold handleValue
  split <;> rfl

end InfoDsLinkNodeBase

end DslinkSystem
