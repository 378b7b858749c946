import Mathlib.Algebra.BigOperators.Group.List.Basic
import Mathlib.Data.List.Basic
import Mathlib.Data.List.Chain
import Mathlib.Tactic.Common

/-!
# Runs of a machine that handles one event at a time

A machine takes a state and an event to the next state, or to nothing when the
handler of the event stops the program. A run feeds it a list of events.

A property that every step keeps holds after every run (`run_keeps`). Where every
event is handled to the end, every run reaches a state, and a property of the state
and of a record of the events holds there (`run_reaches`). Three more readings of a
run are used to state results about it:

* a condition holds of each step the run takes (`EachStep`);
* a property holds in each state the run reaches (`EachState`);
* a step of some kind was taken (`Happened`).

The rules relate them. A property kept by the steps that meet a condition holds
after every run whose steps meet it (`EachStep.keeps`). Two conditions that
agree under an invariant agree on whole runs (`eachStep_congr`). A property
that a step keeps exactly when it meets a condition holds in every state of a
run exactly when every step meets it (`eachState_iff_eachStep`). A mark that
only steps of one kind set, and no step clears, records that such a step
happened (`mark_iff_happened`, `mark_iff_not_eachStep`). What the steps bring,
each seen in its own state, is collected in order (`collected`). A ledger to which
each step adds at most what it brings gets all of it exactly when every step adds all
of it (`ledger_iff_eachStep`), and a register that each step overwrites gets the last
of it (`register_eq_collected`). A machine that simulates another one step at a
time simulates it on runs (`run_simulates`), and a change of states and events that
commutes with every step commutes with runs (`run_map`).

A handler may loop over a list (`Handled.each`). The loop is at its end when every turn
returned (`Handled.each_returns`), and an exception that leaves a turn leaves the loop
(`Handled.each_throws`).
-/

set_option autoImplicit false

namespace EventRuns

universe u v

/-! ## What a handler leaves -/

/-- How the handling of one event ends: the handler returns, an exception
leaves it, or it uses a reference that refers to nothing and the program stops.
The state is the one left at that moment. -/
inductive Handled (State : Type u) where
  | returned (state : State)
  | threw (state : State)
  | stopped (state : State)
  deriving DecidableEq, Repr

namespace Handled

variable {State : Type u} {Other : Type v}

/-- The state left behind, however the handling ended. -/
def state : Handled State → State
  | returned s | threw s | stopped s => s

/-- The state the next event finds. An exception ends the handler and not the
program. -/
def next : Handled State → Option State
  | returned s | threw s => some s
  | stopped _ => none

/-- Place the state left behind in a larger one. -/
def map (f : State → Other) : Handled State → Handled Other
  | returned s => returned (f s)
  | threw s => threw (f s)
  | stopped s => stopped (f s)

/-- Statements in sequence: the second is executed when the first returned. -/
def andThen (first : Handled State) (second : State → Handled State) : Handled State :=
  match first with
  | returned s => second s
  | threw s => threw s
  | stopped s => stopped s

@[simp] theorem state_returned (s : State) : (returned s).state = s := rfl
@[simp] theorem state_threw (s : State) : (threw s).state = s := rfl
@[simp] theorem state_stopped (s : State) : (stopped s).state = s := rfl
@[simp] theorem next_returned (s : State) : (returned s).next = some s := rfl
@[simp] theorem next_threw (s : State) : (threw s).next = some s := rfl
@[simp] theorem next_stopped (s : State) : (stopped s).next = none := rfl
@[simp] theorem map_returned (f : State → Other) (s : State) :
    (returned s).map f = returned (f s) := rfl
@[simp] theorem map_threw (f : State → Other) (s : State) : (threw s).map f = threw (f s) := rfl
@[simp] theorem map_stopped (f : State → Other) (s : State) :
    (stopped s).map f = stopped (f s) := rfl
@[simp] theorem returned_andThen (s : State) (second : State → Handled State) :
    (returned s).andThen second = second s := rfl
@[simp] theorem threw_andThen (s : State) (second : State → Handled State) :
    (threw s).andThen second = threw s := rfl
@[simp] theorem stopped_andThen (s : State) (second : State → Handled State) :
    (stopped s).andThen second = stopped s := rfl

/-- The program goes on in the larger state as it does in the smaller. -/
theorem next_map (f : State → Other) (handled : Handled State) :
    (handled.map f).next = handled.next.map f := by
  cases handled <;> rfl

/-- Statements in sequence in the larger state, when the second does there what it does in
the smaller one. -/
theorem andThen_map {f : State → Other} {handled : Handled State}
    {second : State → Handled State} {second' : Other → Handled Other}
    (same : ∀ s, second' (f s) = (second s).map f) :
    (handled.map f).andThen second' = (handled.andThen second).map f := by
  cases handled with
  | returned s => exact same s
  | threw s => rfl
  | stopped s => rfl

/-! ### Loops -/

section Loops

variable {Item : Type*} {turn : State → Item → Handled State}

/-- Handle the items of a list one after another, as long as each turn returns. -/
def each (turn : State → Item → Handled State) (start : State) : List Item → Handled State
  | [] => returned start
  | item :: items => (turn start item).andThen fun s => each turn s items

@[simp] theorem each_nil (start : State) : each turn start [] = returned start := rfl

theorem each_cons (start : State) (item : Item) (items : List Item) :
    each turn start (item :: items) = (turn start item).andThen fun s => each turn s items := rfl

theorem each_append (start : State) (first second : List Item) :
    each turn start (first ++ second) =
      (each turn start first).andThen fun s => each turn s second := by
  induction first generalizing start with
  | nil => rfl
  | cons item first ih =>
      rw [List.cons_append, each_cons, each_cons]
      cases turn start item with
      | returned s => exact ih s
      | threw s => rfl
      | stopped s => rfl

/-- The items that the loop comes to. -/
def visited (turn : State → Item → Handled State) : State → List Item → List Item
  | _, [] => []
  | s, item :: items =>
      item :: match turn s item with
        | returned next => visited turn next items
        | _ => []

theorem visited_cons_of_returned {start next : State} {item : Item}
    (turned : turn start item = returned next) (items : List Item) :
    visited turn start (item :: items) = item :: visited turn next items := by
  rw [visited, turned]

/-- A loop that returns comes to every item. -/
theorem visited_of_returned {start finish : State} {items : List Item}
    (loop : each turn start items = returned finish) : visited turn start items = items := by
  induction items generalizing start with
  | nil => rfl
  | cons item items ih =>
      rw [each_cons] at loop
      cases turned : turn start item with
      | returned s =>
          rw [turned] at loop
          rw [visited_cons_of_returned turned, ih loop]
      | threw s =>
          rw [turned] at loop
          cases loop
      | stopped s =>
          rw [turned] at loop
          cases loop

/-- A loop that is left comes to the item it is left at, and to those before it. -/
theorem visited_of_threw {start middle left : State} {first : List Item} {item : Item}
    (before : each turn start first = returned middle) (throws : turn middle item = threw left)
    (rest : List Item) : visited turn start (first ++ item :: rest) = first ++ [item] := by
  induction first generalizing start with
  | nil =>
      obtain rfl := returned.inj before
      rw [List.nil_append, visited, throws]
      rfl
  | cons other first ih =>
      rw [each_cons] at before
      cases turned : turn start other with
      | returned s =>
          rw [turned] at before
          rw [List.cons_append, visited_cons_of_returned turned, List.cons_append, ih before]
      | threw s =>
          rw [turned] at before
          cases before
      | stopped s =>
          rw [turned] at before
          cases before

/-- **A loop whose turns all return**: what each turn makes of the items before it holds of
all items in the end. -/
theorem each_returns {invariant : List Item → State → Prop} {allowed : Item → Prop}
    (returns : ∀ before s item, allowed item → invariant before s →
      ∃ next, turn s item = returned next ∧ invariant (before ++ [item]) next)
    {before : List Item} {start : State} (items : List Item) (all : ∀ item ∈ items, allowed item)
    (holds : invariant before start) :
    ∃ finish, each turn start items = returned finish ∧ invariant (before ++ items) finish := by
  induction items generalizing before start with
  | nil => exact ⟨start, rfl, by simpa using holds⟩
  | cons item items ih =>
      obtain ⟨next, turned, kept⟩ := returns before start item (all item (by simp)) holds
      obtain ⟨finish, rest, last⟩ := ih (fun other member => all other (by simp [member])) kept
      refine ⟨finish, ?_, by simpa using last⟩
      rw [each_cons, turned]
      exact rest

/-- An exception that leaves a turn leaves the loop. -/
theorem each_throws {start middle left : State} {first : List Item} {item : Item}
    (before : each turn start first = returned middle) (throws : turn middle item = threw left)
    (rest : List Item) : each turn start (first ++ item :: rest) = threw left := by
  rw [each_append, before, returned_andThen, each_cons, throws]
  rfl

end Loops

end Handled

/-! ## Runs -/

/-- A machine takes a state and an event to the next state. It has none when
handling the event stops the program. -/
abbrev Machine (State : Type u) (Event : Type v) := State → Event → Option State

variable {State : Type u} {Event : Type v} {machine : Machine State Event}

/-- Feed a list of events to the machine. -/
def run (machine : Machine State Event) (start : State) (events : List Event) : Option State :=
  events.foldlM machine start

@[simp] theorem run_nil (start : State) : run machine start [] = some start := rfl

@[simp] theorem run_cons (start : State) (event : Event) (events : List Event) :
    run machine start (event :: events) =
      (machine start event).bind fun next => run machine next events := rfl

theorem run_append (start : State) (first second : List Event) :
    run machine start (first ++ second) =
      (run machine start first).bind fun middle => run machine middle second :=
  List.foldlM_append ..

/-- **A property every step keeps holds after every run.** -/
theorem run_keeps {invariant : State → Prop}
    (keeps : ∀ s e s', invariant s → machine s e = some s' → invariant s')
    {start finish : State} {events : List Event} (holds : invariant start)
    (reached : run machine start events = some finish) : invariant finish := by
  induction events generalizing start with
  | nil => exact Option.some.inj reached ▸ holds
  | cons e events ih =>
      rw [run_cons, Option.bind_eq_some_iff] at reached
      obtain ⟨middle, step, rest⟩ := reached
      exact ih (keeps _ _ _ holds step) rest

/-- **When every allowed event is handled to the end under an invariant and keeps
it, every run over allowed events reaches a state, and the invariant holds
there.** The invariant is one of the state and of what has been recorded of the
events. -/
theorem run_reaches {History : Type*} {invariant : History → State → Prop}
    (record : History → Event → History) (allowed : Event → Prop)
    (handles : ∀ h s e, allowed e → invariant h s →
      ∃ s', machine s e = some s' ∧ invariant (record h e) s')
    {history : History} {start : State} (events : List Event) (all : ∀ e ∈ events, allowed e)
    (holds : invariant history start) :
    ∃ finish, run machine start events = some finish ∧
      invariant (events.foldl record history) finish := by
  induction events generalizing history start with
  | nil => exact ⟨start, rfl, holds⟩
  | cons e events ih =>
      obtain ⟨next, step, kept⟩ := handles _ _ e (all e (by simp)) holds
      obtain ⟨finish, rest, last⟩ := ih (fun e' member => all e' (by simp [member])) kept
      exact ⟨finish, by rw [run_cons, step]; exact rest, last⟩

/-- The same for a property of the state alone. -/
theorem run_goes_on {invariant : State → Prop} (allowed : Event → Prop)
    (handles : ∀ s e, allowed e → invariant s → ∃ s', machine s e = some s' ∧ invariant s')
    {start : State} (events : List Event) (all : ∀ e ∈ events, allowed e)
    (holds : invariant start) :
    ∃ finish, run machine start events = some finish ∧ invariant finish :=
  @run_reaches _ _ _ Unit (fun _ => invariant) (fun h _ => h) allowed (fun _ => handles) () _ events
    all holds

/-! ## Conditions on the steps of a run -/

/-- The condition holds of each step the run takes: of the event and the state
that finds it. -/
def EachStep (machine : Machine State Event) (start : State) (events : List Event)
    (condition : State → Event → Prop) : Prop :=
  ∀ before event after state, events = before ++ event :: after →
    run machine start before = some state → condition state event

/-- The property holds in each state the run reaches, the first one included. -/
def EachState (machine : Machine State Event) (start : State) (events : List Event)
    (property : State → Prop) : Prop :=
  ∀ before after state, events = before ++ after →
    run machine start before = some state → property state

/-- The run takes a step of the given kind. -/
def Happened (machine : Machine State Event) (start : State) (events : List Event)
    (kind : State → Event → Prop) : Prop :=
  ∃ before event after state, events = before ++ event :: after ∧
    run machine start before = some state ∧ kind state event

variable {condition kind : State → Event → Prop} {property : State → Prop}

@[simp] theorem eachStep_nil (start : State) : EachStep machine start [] condition := by
  intro before event after state split
  simp at split

theorem eachStep_cons {start : State} {event : Event} {events : List Event} :
    EachStep machine start (event :: events) condition ↔
      condition start event ∧
        ∀ next, machine start event = some next → EachStep machine next events condition := by
  constructor
  · intro each
    refine ⟨each [] event events start rfl rfl, ?_⟩
    intro next step before e after state split reached
    exact each (event :: before) e after state (by rw [split]; rfl) (by simpa [step] using reached)
  · rintro ⟨head, tail⟩ before e after state split reached
    cases before with
    | nil =>
        obtain ⟨rfl, rfl⟩ := List.cons.inj split
        exact Option.some.inj reached ▸ head
    | cons first before =>
        obtain ⟨rfl, tailSplit⟩ := List.cons.inj split
        rw [run_cons, Option.bind_eq_some_iff] at reached
        obtain ⟨next, step, rest⟩ := reached
        exact tail next step before e after state tailSplit rest

/-- A condition on the events alone holds of every step when it holds of every
event. -/
theorem EachStep.of_forall {start : State} {events : List Event} {allowed : Event → Prop}
    (all : ∀ e ∈ events, allowed e) : EachStep machine start events fun _ e => allowed e := by
  intro before event after state split _
  exact all event (by rw [split]; simp)

/-- Two conditions hold of every step together exactly when each of them does. -/
theorem eachStep_and {start : State} {events : List Event} {other : State → Event → Prop} :
    (EachStep machine start events fun s e => condition s e ∧ other s e) ↔
      EachStep machine start events condition ∧ EachStep machine start events other := by
  constructor
  · intro each
    refine ⟨?_, ?_⟩
    · exact fun before e after s split reached => (each before e after s split reached).1
    · exact fun before e after s split reached => (each before e after s split reached).2
  · rintro ⟨first, second⟩ before e after s split reached
    exact ⟨first before e after s split reached, second before e after s split reached⟩

/-- Where no event stops the program, a condition on the events alone holds of every
step exactly when it holds of every event. -/
theorem eachStep_iff_forall {allowed : Event → Prop}
    (total : ∀ s e, ∃ s', machine s e = some s') {start : State} {events : List Event} :
    (EachStep machine start events fun _ e => allowed e) ↔ ∀ e ∈ events, allowed e := by
  refine ⟨fun each => ?_, EachStep.of_forall⟩
  induction events generalizing start with
  | nil => simp
  | cons e events ih =>
      obtain ⟨next, step⟩ := total start e
      obtain ⟨head, tail⟩ := eachStep_cons.mp each
      intro other member
      rcases List.mem_cons.mp member with rfl | later
      · exact head
      · exact ih (tail next step) other later

/-- A run reaches a state exactly when none of its steps stops the program. -/
theorem exists_run_iff {start : State} {events : List Event} :
    (∃ finish, run machine start events = some finish) ↔
      EachStep machine start events fun s e => machine s e ≠ none := by
  induction events generalizing start with
  | nil => simp
  | cons e events ih =>
      rw [eachStep_cons, run_cons]
      cases step : machine start e with
      | none => simp
      | some next => simpa [step] using ih

/-- **A property kept by the steps that meet a condition holds after every run
whose steps meet it.** -/
theorem EachStep.keeps {invariant : State → Prop} {start finish : State} {events : List Event}
    (each : EachStep machine start events condition)
    (keeps : ∀ s e s', invariant s → condition s e → machine s e = some s' → invariant s')
    (holds : invariant start) (reached : run machine start events = some finish) :
    invariant finish := by
  induction events generalizing start with
  | nil => exact Option.some.inj reached ▸ holds
  | cons e events ih =>
      rw [run_cons, Option.bind_eq_some_iff] at reached
      obtain ⟨middle, step, rest⟩ := reached
      obtain ⟨head, tail⟩ := eachStep_cons.mp each
      exact ih (tail middle step) (keeps _ _ _ holds head step) rest

/-- **Two conditions that agree under an invariant agree on whole runs.** The
invariant need only survive the steps that meet the first condition. -/
theorem eachStep_congr {other : State → Event → Prop} (invariant : State → Prop)
    (agree : ∀ s e, invariant s → (condition s e ↔ other s e))
    (keeps : ∀ s e s', invariant s → condition s e → machine s e = some s' → invariant s')
    {start : State} {events : List Event} (holds : invariant start) :
    EachStep machine start events condition ↔ EachStep machine start events other := by
  induction events generalizing start with
  | nil => simp
  | cons e events ih =>
      simp only [eachStep_cons]
      constructor
      · rintro ⟨head, tail⟩
        exact ⟨(agree _ _ holds).mp head,
          fun next step => (ih (keeps _ _ _ holds head step)).mp (tail next step)⟩
      · rintro ⟨head, tail⟩
        have met := (agree _ _ holds).mpr head
        exact ⟨met, fun next step => (ih (keeps _ _ _ holds met step)).mpr (tail next step)⟩

/-- The same on a run whose events are all allowed. -/
theorem eachStep_congr_on {other : State → Event → Prop} {allowed : Event → Prop}
    (invariant : State → Prop)
    (agree : ∀ s e, allowed e → invariant s → (condition s e ↔ other s e))
    (keeps : ∀ s e s', allowed e → invariant s → condition s e → machine s e = some s' →
      invariant s')
    {start : State} {events : List Event} (all : ∀ e ∈ events, allowed e)
    (holds : invariant start) :
    EachStep machine start events condition ↔ EachStep machine start events other := by
  have allowedSteps : EachStep machine start events fun _ e => allowed e := .of_forall all
  have both : ∀ c : State → Event → Prop, EachStep machine start events c ↔
      EachStep machine start events fun s e => c s e ∧ allowed e := by
    intro c
    rw [eachStep_and]
    exact (and_iff_left allowedSteps).symm
  rw [both condition, both other]
  refine eachStep_congr invariant ?_ ?_ holds
  · intro s e holds
    exact and_congr_left fun permitted => agree s e permitted holds
  · rintro s e s' holds ⟨met, permitted⟩ step
    exact keeps s e s' permitted holds met step

theorem eachState_nil {start : State} :
    EachState machine start [] property ↔ property start := by
  constructor
  · exact fun each => each [] [] start rfl rfl
  · intro holds before after state split reached
    obtain ⟨rfl, -⟩ := List.append_eq_nil_iff.mp split.symm
    exact Option.some.inj reached ▸ holds

theorem eachState_cons {start : State} {event : Event} {events : List Event} :
    EachState machine start (event :: events) property ↔
      property start ∧
        ∀ next, machine start event = some next → EachState machine next events property := by
  constructor
  · intro each
    refine ⟨each [] (event :: events) start rfl rfl, ?_⟩
    intro next step before after state split reached
    exact each (event :: before) after state (by rw [split]; rfl) (by simpa [step] using reached)
  · rintro ⟨head, tail⟩ before after state split reached
    cases before with
    | nil => exact Option.some.inj reached ▸ head
    | cons first before =>
        obtain ⟨rfl, tailSplit⟩ := List.cons.inj split
        rw [run_cons, Option.bind_eq_some_iff] at reached
        obtain ⟨next, step, rest⟩ := reached
        exact tail next step before after state tailSplit rest

/-- A property holds in each state of a run exactly when it holds in the first one
and in the state after each step. -/
theorem eachState_iff_after {start : State} {events : List Event} :
    EachState machine start events property ↔
      property start ∧ EachStep machine start events fun s e =>
        ∀ after, machine s e = some after → property after := by
  induction events generalizing start with
  | nil => simp [eachState_nil]
  | cons e events ih =>
      rw [eachState_cons, eachStep_cons]
      refine and_congr_right fun _ => ?_
      constructor
      · intro tail
        refine ⟨fun after step => ?_, fun after step => (ih.mp (tail after step)).2⟩
        exact (ih.mp (tail after step)).1
      · rintro ⟨head, tail⟩ after step
        exact ih.mpr ⟨head after step, tail after step⟩

/-- **A property that a step keeps exactly when it meets a condition holds in
every state of a run exactly when every step of the run meets it.** The
invariant may rely on the property. -/
theorem eachState_iff_eachStep (invariant : State → Prop)
    (keeps : ∀ s e s', invariant s → property s → machine s e = some s' → property s' →
      invariant s')
    (exact_step : ∀ s e s', invariant s → property s → machine s e = some s' →
      (property s' ↔ condition s e))
    (no_step : ∀ s e, invariant s → machine s e = none → condition s e)
    {start : State} {events : List Event} (holds : invariant start) (good : property start) :
    EachState machine start events property ↔ EachStep machine start events condition := by
  induction events generalizing start with
  | nil => simp [eachState_nil, good]
  | cons e events ih =>
      rw [eachState_cons, eachStep_cons]
      constructor
      · rintro ⟨-, tail⟩
        refine ⟨?_, fun next step => ?_⟩
        · cases step : machine start e with
          | none => exact no_step _ _ holds step
          | some next =>
              exact (exact_step _ _ _ holds good step).mp (tail next step [] events next rfl rfl)
        · have kept := tail next step [] events next rfl rfl
          exact (ih (keeps _ _ _ holds good step kept) kept).mp (tail next step)
      · rintro ⟨head, tail⟩
        refine ⟨good, fun next step => ?_⟩
        have kept := (exact_step _ _ _ holds good step).mpr head
        exact (ih (keeps _ _ _ holds good step kept) kept).mpr (tail next step)

/-! ## Steps of one kind -/

theorem not_happened_nil (start : State) : ¬ Happened machine start [] kind := by
  rintro ⟨before, event, after, state, split, -⟩
  simp at split

theorem happened_cons {start : State} {event : Event} {events : List Event} :
    Happened machine start (event :: events) kind ↔
      kind start event ∨
        ∃ next, machine start event = some next ∧ Happened machine next events kind := by
  constructor
  · rintro ⟨before, e, after, state, split, reached, found⟩
    cases before with
    | nil =>
        obtain ⟨rfl, rfl⟩ := List.cons.inj split
        exact .inl (Option.some.inj reached ▸ found)
    | cons first before =>
        obtain ⟨rfl, tailSplit⟩ := List.cons.inj split
        rw [run_cons, Option.bind_eq_some_iff] at reached
        obtain ⟨next, step, rest⟩ := reached
        exact .inr ⟨next, step, before, e, after, state, tailSplit, rest, found⟩
  · rintro (found | ⟨next, step, before, e, after, state, split, reached, found⟩)
    · exact ⟨[], event, events, start, rfl, rfl, found⟩
    · exact ⟨event :: before, e, after, state, by rw [split]; rfl, by simpa [step] using reached,
        found⟩

/-- A step of a kind happened exactly when not every step was of another kind. -/
theorem not_happened_iff {start : State} {events : List Event} :
    ¬ Happened machine start events kind ↔
      EachStep machine start events fun s e => ¬ kind s e := by
  constructor
  · intro never before event after state split reached found
    exact never ⟨before, event, after, state, split, reached, found⟩
  · rintro each ⟨before, event, after, state, split, reached, found⟩
    exact each before event after state split reached found

/-- **A mark that exactly the steps of one kind set, and that no step clears,
tells whether such a step happened.** -/
theorem mark_iff_happened {mark : State → Prop} (invariant : State → Prop)
    (keeps : ∀ s e s', invariant s → machine s e = some s' → invariant s')
    (sets : ∀ s e s', invariant s → machine s e = some s' → (mark s' ↔ mark s ∨ kind s e))
    {start finish : State} {events : List Event} (holds : invariant start)
    (reached : run machine start events = some finish) :
    mark finish ↔ mark start ∨ Happened machine start events kind := by
  induction events generalizing start with
  | nil =>
      obtain rfl := Option.some.inj reached
      simp [not_happened_nil]
  | cons e events ih =>
      rw [run_cons, Option.bind_eq_some_iff] at reached
      obtain ⟨middle, step, rest⟩ := reached
      rw [ih (keeps _ _ _ holds step) rest, sets _ _ _ holds step, happened_cons, or_assoc]
      simp [step]

/-- **A mark that exactly the steps set that break a condition tells whether every step met
it.** -/
theorem mark_iff_not_eachStep {mark : State → Prop} (invariant : State → Prop)
    (keeps : ∀ s e s', invariant s → machine s e = some s' → invariant s')
    (sets : ∀ s e s', invariant s → machine s e = some s' →
      (mark s' ↔ mark s ∨ ¬ condition s e))
    {start finish : State} {events : List Event} (holds : invariant start)
    (initially : ¬ mark start) (reached : run machine start events = some finish) :
    mark finish ↔ ¬ EachStep machine start events condition := by
  have marked : mark finish ↔ mark start ∨
      Happened machine start events fun s e => ¬ condition s e :=
    mark_iff_happened invariant keeps sets holds reached
  rw [marked, or_iff_right initially, ← not_iff_not, not_happened_iff, not_not]
  simp only [not_not]

/-! ## What a run brings -/

/-- What the steps of a run bring, in order: each step as far as the run goes. -/
def collected {Entry : Type*} (machine : Machine State Event)
    (brought : State → Event → List Entry) : State → List Event → List Entry
  | _, [] => []
  | s, e :: events =>
      brought s e ++
        match machine s e with
        | none => []
        | some next => collected machine brought next events

section Collected

variable {Entry : Type*} {brought : State → Event → List Entry}

@[simp] theorem collected_nil (start : State) : collected machine brought start [] = [] := rfl

theorem collected_cons {start next : State} {event : Event} (events : List Event)
    (step : machine start event = some next) :
    collected machine brought start (event :: events) =
      brought start event ++ collected machine brought next events := by
  rw [collected, step]

/-- What does not depend on the states is brought by the events alone. -/
theorem collected_eq_flatMap {entries : Event → List Entry} {start finish : State}
    {events : List Event} (reached : run machine start events = some finish) :
    collected machine (fun _ => entries) start events = events.flatMap entries := by
  induction events generalizing start with
  | nil => rfl
  | cons e events ih =>
      rw [run_cons, Option.bind_eq_some_iff] at reached
      obtain ⟨next, step, rest⟩ := reached
      rw [collected_cons _ step, ih rest, List.flatMap_cons]

/-- **A ledger to which no step adds more than it brings gets all that is brought exactly when
every step adds all of it.** The steps that add all of it are those that meet the
condition. -/
theorem ledger_iff_eachStep {ledger : State → List Entry} (invariant : State → Prop)
    (keeps : ∀ s e s', invariant s → machine s e = some s' → invariant s')
    (adds : ∀ s e s', invariant s → machine s e = some s' →
      ∃ added, ledger s' = ledger s ++ added ∧ added.length ≤ (brought s e).length ∧
        (added = brought s e ↔ condition s e))
    {start finish : State} {events : List Event} (holds : invariant start)
    (reached : run machine start events = some finish) :
    ∃ added, ledger finish = ledger start ++ added ∧
      added.length ≤ (collected machine brought start events).length ∧
      (added = collected machine brought start events ↔
        EachStep machine start events condition) := by
  induction events generalizing start with
  | nil =>
      obtain rfl := Option.some.inj reached
      exact ⟨[], by simp⟩
  | cons e events ih =>
      rw [run_cons, Option.bind_eq_some_iff] at reached
      obtain ⟨middle, step, rest⟩ := reached
      obtain ⟨first, grown, short, exact_step⟩ := adds _ _ _ holds step
      obtain ⟨second, grown', short', exact_rest⟩ := ih (keeps _ _ _ holds step) rest
      refine ⟨first ++ second, by rw [grown', grown, List.append_assoc], ?_, ?_⟩
      · rw [collected_cons _ step, List.length_append, List.length_append]
        exact Nat.add_le_add short short'
      · have tail : EachStep machine start (e :: events) condition ↔
            condition start e ∧ EachStep machine middle events condition := by
          simp [eachStep_cons, step]
        rw [tail, ← exact_step, ← exact_rest, collected_cons _ step]
        constructor
        · intro all
          -- neither part is longer than its share, so both are just as long
          have lengths := congrArg List.length all
          rw [List.length_append, List.length_append] at lengths
          exact List.append_inj all (by omega)
        · rintro ⟨rfl, rfl⟩
          rfl

/-- **A register that every step overwrites with the last entry it brings, and leaves
alone when it brings none, has the last entry the run brings.** -/
theorem register_eq_collected {register : State → Option Entry} (invariant : State → Prop)
    (keeps : ∀ s e s', invariant s → machine s e = some s' → invariant s')
    (writes : ∀ s e s', invariant s → machine s e = some s' →
      register s' = (brought s e).getLast?.or (register s))
    {start finish : State} {events : List Event} (holds : invariant start)
    (reached : run machine start events = some finish) :
    register finish = (collected machine brought start events).getLast?.or (register start) := by
  induction events generalizing start with
  | nil =>
      obtain rfl := Option.some.inj reached
      rfl
  | cons e events ih =>
      rw [run_cons, Option.bind_eq_some_iff] at reached
      obtain ⟨next, step, rest⟩ := reached
      rw [ih (keeps _ _ _ holds step) rest, writes _ _ _ holds step, collected_cons _ step,
        List.getLast?_append, Option.or_assoc]

/-- **A counter to which every step adds what it brings** has, after a run, all that the run
brings; otherwise the run is one without the counter. -/
theorem run_counted {Total : Type*} [AddMonoid Total] {amounts : State → Event → List Total}
    {counting : Machine (State × Total) Event} (invariant : State → Prop)
    (keeps : ∀ s e s', invariant s → machine s e = some s' → invariant s')
    (counts : ∀ s n e, invariant s → counting (s, n) e =
      (machine s e).map fun s' => (s', n + (amounts s e).sum))
    {start : State} (holds : invariant start) (count : Total) (events : List Event) :
    run counting (start, count) events = (run machine start events).map fun finish =>
      (finish, count + (collected machine amounts start events).sum) := by
  induction events generalizing start count with
  | nil => simp
  | cons e events ih =>
      rw [run_cons, run_cons, counts _ _ _ holds]
      cases step : machine start e with
      | none => rfl
      | some next =>
          have later := ih (keeps _ _ _ holds step) (count + (amounts start e).sum)
          rw [Option.map_some, Option.bind_some, Option.bind_some, later, collected_cons _ step,
            List.sum_append, add_assoc]

end Collected

/-! ## Simulation -/

/-- **A machine each of whose steps is a run of another machine simulates it on
runs.** -/
theorem run_simulates {Other : Type*} {OtherEvent : Type*} {other : Machine Other OtherEvent}
    (view : State → Other)
    (simulates : ∀ s e s', machine s e = some s' →
      ∃ events, run other (view s) events = some (view s'))
    {start finish : State} {events : List Event}
    (reached : run machine start events = some finish) :
    ∃ events', run other (view start) events' = some (view finish) := by
  induction events generalizing start with
  | nil =>
      obtain rfl := Option.some.inj reached
      exact ⟨[], rfl⟩
  | cons e events ih =>
      rw [run_cons, Option.bind_eq_some_iff] at reached
      obtain ⟨middle, step, rest⟩ := reached
      obtain ⟨first, firstRun⟩ := simulates _ _ _ step
      obtain ⟨second, secondRun⟩ := ih rest
      refine ⟨first ++ second, ?_⟩
      rw [run_append, firstRun]
      exact secondRun

/-- **A machine each of whose steps is the same step of another machine has no runs that
the other has not.** -/
theorem run_refines {other : Machine State Event}
    (steps : ∀ s e s', machine s e = some s' → other s e = some s')
    {start finish : State} {events : List Event}
    (reached : run machine start events = some finish) : run other start events = some finish := by
  induction events generalizing start with
  | nil => exact reached
  | cons e events ih =>
      rw [run_cons, Option.bind_eq_some_iff] at reached ⊢
      obtain ⟨middle, step, rest⟩ := reached
      exact ⟨middle, steps _ _ _ step, ih rest⟩

/-- **A machine that differs from another one only in that it stops at entries out of
line.** Each step brings at most one entry, and the first machine takes a step of the other
exactly when the entry, if there is one, follows from the one before. Then its runs are
those of the other machine whose entries form a chain. -/
theorem run_iff_chain {Entry : Type*} {other : Machine State Event}
    {brought : State → Event → Option Entry} {follows : Entry → Entry → Prop}
    (invariant : Entry → State → Prop)
    (steps : ∀ latest s e s', invariant latest s → machine s e = some s' → other s e = some s')
    (in_line : ∀ latest s e s', invariant latest s → other s e = some s' →
      (machine s e = some s' ↔ ∀ entry, brought s e = some entry → follows latest entry) ∧
        invariant ((brought s e).getD latest) s')
    {latest : Entry} {start : State} (holds : invariant latest start) (events : List Event)
    (finish : State) :
    run machine start events = some finish ↔
      run other start events = some finish ∧
        (latest :: collected other (fun s e => (brought s e).toList) start events).IsChain
          follows := by
  induction events generalizing latest start with
  | nil => simp
  | cons e events ih =>
      have onward : ∀ {next}, machine start e = some next →
          run machine start (e :: events) = run machine next events := by
        intro next moved
        rw [run_cons, moved, Option.bind_some]
      have stops : machine start e = none → ¬ run machine start (e :: events) = some finish := by
        intro halted
        simp [halted]
      have otherRun : run other start (e :: events) =
          (other start e).bind fun next => run other next events := run_cons start e events
      cases step : other start e with
      | none =>
          have halted : machine start e = none := by
            cases moved : machine start e with
            | none => rfl
            | some s' =>
                rw [steps _ _ _ _ holds moved] at step
                cases step
          exact iff_of_false (stops halted) (by simp [step])
      | some next =>
          obtain ⟨line, kept⟩ := in_line _ _ _ _ holds step
          rw [collected_cons _ step, otherRun, step, Option.bind_some]
          cases entry : brought start e with
          | none =>
              rw [entry, Option.getD_none] at kept
              rw [onward (line.mpr (by simp [entry])), Option.toList_none, List.nil_append]
              exact ih kept
          | some here =>
              rw [entry, Option.getD_some] at kept
              rw [Option.toList_some, List.singleton_append, List.isChain_cons_cons]
              by_cases follow : follows latest here
              · have moved := line.mpr fun _ same =>
                  Option.some.inj (entry.symm.trans same) ▸ follow
                rw [onward moved, ih kept]
                exact and_congr_right fun _ => (and_iff_right follow).symm
              · refine iff_of_false (stops ?_) (by simp [follow])
                cases moved : machine start e with
                | none => rfl
                | some s' =>
                    obtain rfl := Option.some.inj ((steps _ _ _ _ holds moved).symm.trans step)
                    exact absurd (line.mp moved here entry) follow

/-- **A machine that translates its events, as far as they can be, for another machine
runs as that machine does over the translated events.** -/
theorem run_translated {OtherEvent : Type*} {other : Machine State OtherEvent}
    (translate : Event → Option OtherEvent)
    (translated : ∀ s e, machine s e = (translate e).bind (other s)) (start : State)
    (events : List Event) :
    run machine start events = (events.mapM translate).bind (run other start) := by
  induction events generalizing start with
  | nil => rfl
  | cons e events ih =>
      rw [run_cons, translated, List.mapM_cons]
      cases translate e with
      | none => rfl
      | some e' =>
          have rest : ∀ middle, run machine middle events =
              (events.mapM translate).bind (run other middle) := ih
          cases step : other start e' with
          | none => cases events.mapM translate <;> simp [step]
          | some middle =>
              simp only [Option.bind_some, step, rest]
              cases events.mapM translate <;> simp [step]

/-- **A change of states and events that commutes with every step commutes with runs.** -/
theorem run_map {Other : Type*} {OtherEvent : Type*} {other : Machine Other OtherEvent}
    {invariant : State → Prop} (view : State → Other) (rename : Event → OtherEvent)
    (keeps : ∀ s e s', invariant s → machine s e = some s' → invariant s')
    (commutes : ∀ s e, invariant s → other (view s) (rename e) = (machine s e).map view)
    {start : State} (holds : invariant start) (events : List Event) :
    run other (view start) (events.map rename) = (run machine start events).map view := by
  induction events generalizing start with
  | nil => rfl
  | cons e events ih =>
      rw [List.map_cons, run_cons, run_cons, commutes start e holds]
      cases step : machine start e with
      | none => rfl
      | some middle => exact ih (keeps start e middle holds step)

end EventRuns
