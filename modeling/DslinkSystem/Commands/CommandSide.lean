import DslinkSystem.BaseNodes
import DslinkSystem.Library.TimerSlots
import DslinkSystem.Process.ProcessHandler

/-!
# The command side of the link's node

`Execute_Command` and `Execute_Stream_Command` share one `ProcessHandler` and one
field `_command_timer`. Each invocation has a number. An invocation of
`Execute_Stream_Command` has a stream, which is open until the client closes it;
the handler is called again when it closes. The callback of a command timer holds
the stream it was made for.

Handlers and timer callbacks run one at a time on the strand. The handler of
`Execute_Command` keeps the strand while it is inside `process->wait()`: only
children and their readers go on until it returns.
-/

set_option autoImplicit false

namespace DslinkSystem

open EventRuns TimerSlots

/-- An invocation, with the state of its stream. -/
inductive Invocation where
  | command
  | stream (destroyed : Bool)
  deriving DecidableEq, Repr

/-- The part of `InfoDsLinkNode` that executes commands. `waiting` is the invocation
of `Execute_Command` inside `process->wait()`. `delivered` has what was returned by
an invocation or sent on its stream, oldest first. -/
structure CommandSide where
  process : ProcessHandler := {}
  commandTimer : TimerSlot ℕ := .empty
  invocations : List Invocation := []
  waiting : Option ℕ := none
  delivered : List (ℕ × List OutputByte) := []

namespace CommandSide

/-- The command side of a new node. -/
def new (execPath arguments : String) : CommandSide := { process := { execPath, arguments } }

variable (side : CommandSide)

/-- The stream of an invocation is open. -/
def isOpen (invocation : ℕ) : Bool := side.invocations[invocation]? == some (.stream false)

/-- `stream.is_destroyed()`. -/
def isDestroyed (stream : ℕ) : Bool := side.invocations[stream]? == some (.stream true)

/-- A value is returned by an invocation, or sent on its stream. -/
def deliver (invocation : ℕ) (output : List OutputByte) : CommandSide :=
  { side with delivered := side.delivered ++ [(invocation, output)] }

/-- A new invocation. -/
def invoked (invocation : Invocation) : CommandSide :=
  { side with invocations := side.invocations ++ [invocation] }

/-- `process->start(cmd)`. -/
def start (invocation : ℕ) (cmd : String) (launches : Bool) : Handled CommandSide :=
  (side.process.start invocation cmd launches).map fun process => { side with process }

/-! ## `Execute_Command` -/

/-- The handler of `Execute_Command`, as far as `process->wait()`. -/
def executeCommand (v : Var) (launches : Bool) : Handled CommandSide :=
  let invocation := side.invocations.length
  let side := side.invoked .command
  if v.hasCmd then
    match v.cmdString with
    | some cmd =>
        (side.start invocation cmd launches).andThen fun side =>
          .returned { side with waiting := some invocation }
    | none => .returned (side.deliver invocation [])
  else .returned (side.deliver invocation [])

/-- `process->wait()` returns once no child runs; the handler returns the output. -/
def waitReturns : CommandSide :=
  match side.waiting with
  | some invocation =>
      if side.process.running then side
      else
        let (retStr, process) := side.process.getOutput
        { side with process, waiting := none }.deliver invocation retStr
  | none => side

/-! ## `Execute_Stream_Command` -/

/-- The handler of `Execute_Stream_Command`. -/
def executeStreamCommand (stream : ℕ) (v : Var) (launches : Bool) : Handled CommandSide :=
  if v.hasCmd then
    match v.cmdString with
    | some cmd =>
        (side.start stream cmd launches).andThen fun side =>
          .returned { side with commandTimer := side.commandTimer.assign 1000 stream }
    | none => .returned side
  else if v.isNull && side.isDestroyed stream then
    let side := { side with process := side.process.terminate }
    match side.commandTimer.destroy with
    | none => .stopped side
    | some commandTimer => .returned { side with commandTimer }
  else .returned side

/-- A client invokes `Execute_Stream_Command`: a new stream is opened. -/
def invokeStream (v : Var) (launches : Bool) : Handled CommandSide :=
  (side.invoked (.stream false)).executeStreamCommand side.invocations.length v launches

/-- A client closes a stream: the handler is called with a null value. -/
def closeStream (stream : ℕ) : Handled CommandSide :=
  if side.isOpen stream then
    { side with invocations := side.invocations.set stream (.stream true) }.executeStreamCommand
      stream .null false
  else .returned side

/-- The callback of a command timer made for a stream. -/
def commandCallback (stream : ℕ) : CommandSide × Bool :=
  if !side.isDestroyed stream then
    let (retStr, process) := side.process.getOutput
    let side := { side with process }
    if retStr ≠ [] then (side.deliver stream retStr, true) else (side, true)
  else (side, false)

/-- A tick of the command timer `t`. A timer that is not armed does not tick. -/
def tick (t : ℕ) : CommandSide :=
  if side.commandTimer.runs t then
    match side.commandTimer.created[t]? with
    | some timer =>
        let done := side.commandCallback timer.callback
        { done.1 with commandTimer := done.1.commandTimer.setRunning t done.2 }
    | none => side
  else side

/-- A handler or a callback is executed when no handler keeps the strand. -/
def onStrand (handled : Handled CommandSide) : Handled CommandSide :=
  if side.waiting = none then handled else .returned side

end CommandSide

/-- What happens to the command side. -/
inductive CommandEvent where
  | executeCommand (v : Var) (launches : Bool)
  | waitReturns
  | invokeStream (v : Var) (launches : Bool)
  | closeStream (stream : ℕ)
  | tick (timer : ℕ)
  | exit (child : ℕ)
  | append (child : ℕ) (bytes : List UInt8)
  | endOfFile (child : ℕ)

/-- The handling of one event. -/
def CommandEvent.handle (side : CommandSide) : CommandEvent → Handled CommandSide
  | executeCommand v launches => side.onStrand (side.executeCommand v launches)
  | waitReturns => .returned side.waitReturns
  | invokeStream v launches => side.onStrand (side.invokeStream v launches)
  | closeStream stream => side.onStrand (side.closeStream stream)
  | tick t => side.onStrand (.returned (side.tick t))
  | exit c => .returned { side with process := side.process.exit c }
  | append c bytes => .returned { side with process := side.process.append c bytes }
  | endOfFile c => .returned { side with process := side.process.endOfFile c }

/-- The machine of the command side. -/
def commandMachine : Machine CommandSide CommandEvent := fun side event => (event.handle side).next

end DslinkSystem
