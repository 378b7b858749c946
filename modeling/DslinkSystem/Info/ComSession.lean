import DslinkSystem.Library.Holdings
import DslinkSystem.Library.TextScan
import Mathlib.Tactic.SplitIfs

/-!
# The temperature on Windows

`get_cpu_temp` opens a session with the management service for each call: it initialises the
library, creates a locator, connects to a server, asks for the temperature probes and reads
one property of each. At each of the six calls it may give up, and then it releases what it
has so far. Whether a call fails, and which objects the query gives, are parameters.

A call gives back everything it took hold of, and never uses or releases a reference that it
does not hold, unless the query succeeds without an enumerator or a probe has a reading that
is not a string (`triple_getCpuTemp`). So it is for every sequence of calls
(`getCpuTemp_polls`). What a call returns does not depend on any reading.
-/

set_option autoImplicit false

namespace DslinkSystem

open Holdings TextScan

namespace Windows

/-- `FAILED(hres)`. -/
def failed (hres : Int32) : Bool := hres < 0

/-- What `get_cpu_temp` takes hold of: the library, three pointers, an object of the query and
the string of a property. -/
inductive ComReference where
  | library
  | locator
  | services
  | enumerator
  | object
  | string
  deriving DecidableEq, Repr

/-- A `VARIANT` that a call has written. -/
inductive Variant where
  | string
  | other
  deriving DecidableEq, Repr

/-- What the calls give. The query may succeed without an enumerator. For each object that
the enumerator gives, there is what `Get` writes, unless it fails. -/
structure WmiAnswers where
  initializeEx : Int32
  initializeSecurity : Int32
  createInstance : Int32
  connectServer : Int32
  setProxyBlanket : Int32
  execQuery : Int32
  pEnumerator : Option (List (Option Variant))
  deriving DecidableEq, Repr

/-! ## The call -/

/-- A call through a pointer, while the library is initialised. -/
def call (r : ComReference) : Holding ComReference Unit := do
  use .library
  use r

/-- `r->Release()`. -/
def releasePointer (r : ComReference) : Holding ComReference Unit := do
  use .library
  release r

/-- `CoUninitialize()`. -/
def uninitialize : Holding ComReference Unit := release .library

/-- `vtProp.bstrVal` is written out, and `vtProp` cleared. -/
def showProperty : Option Variant → Holding ComReference Unit
  | some .string => do
      acquire .string
      use .string
      release .string
  | some .other | none => failure

/-- The loop over the objects of the query. -/
def readProbes : List (Option Variant) → Holding ComReference Unit
  | [] => call .enumerator
  | vtProp :: objects => do
      call .enumerator
      acquire .object
      call .object
      showProperty vtProp
      releasePointer .object
      readProbes objects

/-- `"0.0°C"`, in the bytes of the source file. -/
def noTemperature : Text := ['0', '.', '0', '\u00b0', 'C']

/-- The query and what follows it, to the end of `get_cpu_temp`. -/
def queryProbes (answers : WmiAnswers) : Holding ComReference Text := do
  call .services
  if failed answers.execQuery then
    releasePointer .services
    releasePointer .locator
    uninitialize
    return ['1']
  match answers.pEnumerator with
  | none =>
      -- the loop is passed over, but the enumerator is released
      releasePointer .services
      releasePointer .locator
      failure
  | some objects =>
      readFrom objects
where
  /-- The loop and the cleanup. -/
  readFrom (objects : List (Option Variant)) : Holding ComReference Text := do
    acquire .enumerator
    readProbes objects
    releasePointer .services
    releasePointer .locator
    releasePointer .enumerator
    uninitialize
    return noTemperature

/-- `info::cpu::get_cpu_temp()`. -/
def getCpuTemp (answers : WmiAnswers) : Holding ComReference Text := do
  if failed answers.initializeEx then
    return ['1']
  acquire .library
  if failed answers.initializeSecurity then
    uninitialize
    return ['1']
  if failed answers.createInstance then
    uninitialize
    return ['1']
  acquire .locator
  call .locator
  if failed answers.connectServer then
    releasePointer .locator
    uninitialize
    return ['1']
  acquire .services
  call .services
  if failed answers.setProxyBlanket then
    releasePointer .services
    releasePointer .locator
    uninitialize
    return ['1']
  queryProbes answers

/-! ## What a call does to its references -/

namespace WmiAnswers

/-- None of the six calls fails. -/
def connected (answers : WmiAnswers) : Bool :=
  !failed answers.initializeEx && !failed answers.initializeSecurity &&
    !failed answers.createInstance && !failed answers.connectServer &&
      !failed answers.setProxyBlanket && !failed answers.execQuery

/-- The query that succeeds gives an enumerator, and every reading is a string. -/
def readable (answers : WmiAnswers) : Bool :=
  answers.pEnumerator.any fun objects => objects.all (· == some .string)

/-- What the call returns. There is nothing where it goes wrong. -/
def temperature (answers : WmiAnswers) : Option Text :=
  if answers.connected then
    if answers.readable then some noTemperature else none
  else some ['1']

end WmiAnswers

variable {held after : Multiset ComReference} {r : ComReference}

theorem triple_call (library : .library ∈ held) (there : r ∈ held) :
    Triple held (call r) (some ()) held :=
  (triple_use library).after_step (triple_use there)

theorem triple_releasePointer (library : .library ∈ held) (there : r ∈ held) :
    Triple held (releasePointer r) (some ()) (held.erase r) :=
  (triple_use library).after_step (triple_release there)

/-- A property that is not a string is read as one. -/
theorem triple_showProperty (vtProp : Option Variant) :
    Triple held (showProperty vtProp) (if vtProp == some .string then some () else none)
      held := by
  cases vtProp with
  | none => exact triple_failure
  | some written =>
      cases written with
      | other => exact triple_failure
      | string =>
          rw [showProperty]
          refine (triple_acquire _).after_step ?_
          refine (triple_use (Multiset.mem_cons_self _ _)).after_step ?_
          have released := triple_release (Multiset.mem_cons_self ComReference.string held)
          rwa [Multiset.erase_cons_head] at released

/-- **The loop releases each object it is given**, as long as the readings are strings. -/
theorem triple_readProbes (library : .library ∈ held) (enumerator : .enumerator ∈ held)
    (objects : List (Option Variant)) :
    Triple held (readProbes objects)
      (if objects.all (· == some .string) then some () else none) held := by
  induction objects with
  | nil => exact triple_call library enumerator
  | cons vtProp objects ih =>
      rw [readProbes]
      refine (triple_call library enumerator).after_step ?_
      refine (triple_acquire _).after_step ?_
      have library' := Multiset.mem_cons_of_mem (b := ComReference.object) library
      have object := Multiset.mem_cons_self ComReference.object held
      refine (triple_call library' object).after_step ?_
      have released := triple_releasePointer library' object
      rw [Multiset.erase_cons_head] at released
      have same : (if (vtProp :: objects).all (· == some .string) then some () else none) =
          (if vtProp == some .string then some () else none).bind fun _ =>
            if objects.all (· == some .string) then some () else none := by
        cases string : vtProp == some .string <;> simp [string]
      rw [same]
      refine (triple_showProperty vtProp).bind fun _ _ => ?_
      exact released.after_step ih

/-- The references that the query starts with. -/
def queryReferences : Multiset ComReference := .services ::ₘ .locator ::ₘ .library ::ₘ 0

/-- The cleanup where a call through the services fails. -/
theorem triple_giveUp : Triple queryReferences (do
    releasePointer .services
    releasePointer .locator
    uninitialize
    return ['1']) (some ['1']) 0 := by
  refine (triple_releasePointer (by decide) (by decide)).after_step ?_
  refine (triple_releasePointer (by decide) (by decide)).after_step ?_
  refine (triple_release (by decide)).after_step ?_
  exact triple_pure _

/-- The loop and the cleanup give back what the query took. -/
theorem triple_readFrom (objects : List (Option Variant)) :
    Triple queryReferences (queryProbes.readFrom objects)
      (if objects.all (· == some .string) then some noTemperature else none) 0 := by
  have same : (if objects.all (· == some .string) then some noTemperature else none) =
      (if objects.all (· == some .string) then some () else none).bind fun _ =>
        some noTemperature := by
    split <;> rfl
  rw [queryProbes.readFrom, same]
  refine (triple_acquire _).after_step ?_
  refine (triple_readProbes (by decide) (by decide) objects).bind fun _ _ => ?_
  refine (triple_releasePointer (by decide) (by decide)).after_step ?_
  refine (triple_releasePointer (by decide) (by decide)).after_step ?_
  refine (triple_releasePointer (by decide) (by decide)).after_step ?_
  refine (triple_release (by decide)).after_step ?_
  exact triple_pure _

theorem triple_queryProbes (answers : WmiAnswers) :
    Triple queryReferences (queryProbes answers)
      (if failed answers.execQuery then some ['1']
        else if answers.readable then some noTemperature else none) 0 := by
  rw [queryProbes]
  refine (triple_call (by decide) (by decide)).after_step ?_
  cases failed answers.execQuery with
  | true => exact triple_giveUp
  | false =>
      rw [WmiAnswers.readable]
      cases answers.pEnumerator with
      | some objects => exact triple_readFrom objects
      | none =>
          refine (triple_releasePointer (by decide) (by decide)).after_step ?_
          refine (triple_releasePointer (by decide) (by decide)).after_step ?_
          exact triple_failure

/-- **What a call does to its references.** It gives back everything that it took, wherever it
gives up, and goes wrong only on an enumerator or a reading that is not there. -/
theorem triple_getCpuTemp (answers : WmiAnswers) :
    Triple 0 (getCpuTemp answers) answers.temperature 0 := by
  rw [getCpuTemp, WmiAnswers.temperature, WmiAnswers.connected]
  cases failed answers.initializeEx with
  | true => exact triple_pure _
  | false =>
      refine (triple_acquire _).after_step ?_
      cases failed answers.initializeSecurity with
      | true => exact (triple_release (by decide)).after_step (triple_pure _)
      | false =>
          cases failed answers.createInstance with
          | true => exact (triple_release (by decide)).after_step (triple_pure _)
          | false =>
              refine (triple_acquire _).after_step ?_
              refine (triple_call (by decide) (by decide)).after_step ?_
              cases failed answers.connectServer with
              | true =>
                  refine (triple_releasePointer (by decide) (by decide)).after_step ?_
                  exact (triple_release (by decide)).after_step (triple_pure _)
              | false =>
                  refine (triple_acquire _).after_step ?_
                  refine (triple_call (by decide) (by decide)).after_step ?_
                  cases failed answers.setProxyBlanket with
                  | true => exact triple_giveUp
                  | false =>
                      have queried := triple_queryProbes answers
                      cases asked : failed answers.execQuery with
                      | true =>
                          rw [asked] at queried
                          exact queried
                      | false =>
                          rw [asked] at queried
                          exact queried

/-! ## Polls -/

namespace WmiAnswers

/-- The call does not go wrong: it fails, or what it is given can be read. -/
def orderly (answers : WmiAnswers) : Bool := !answers.connected || answers.readable

/-- The text of a call that does not go wrong. -/
def text (answers : WmiAnswers) : Text := if answers.connected then noTemperature else ['1']

theorem temperature_eq (answers : WmiAnswers) :
    answers.temperature = if answers.orderly then some answers.text else none := by
  rw [temperature, orderly, text]
  cases answers.connected <;> cases answers.readable <;> rfl

end WmiAnswers

/-- **Polling the temperature.** However the calls of a sequence of polls fail, and whatever
the process holds: the sequence runs to its end exactly when each poll that connects is given
an enumerator and readings that are strings. Then the process holds what it held before, and
each poll returns `"0.0°C"` when it connects and `"1"` otherwise. -/
theorem getCpuTemp_polls (polls : List WmiAnswers) (held left : Multiset ComReference)
    (texts : List Text) :
    polls.mapM getCpuTemp held = some (texts, left) ↔
      (∀ answers ∈ polls, answers.orderly = true) ∧ texts = polls.map WmiAnswers.text ∧
        left = held := by
  apply mapM_run_iff
  intro answers
  rw [← answers.temperature_eq]
  exact triple_getCpuTemp answers

end Windows

end DslinkSystem
