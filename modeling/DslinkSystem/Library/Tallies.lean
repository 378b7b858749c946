import DslinkSystem.Library.EventRuns

/-!
# Programs over a counter

A program may read and change a counter, in any monoid. It adds an amount when, whatever the
counter is, it returns the same value and leaves the counter with the amount added (`Adds`).
Programs in sequence add their amounts (`Adds.bind`), and a loop adds the amounts of the
turns that it comes to (`adds_eachM`).
-/

set_option autoImplicit false

namespace Tallies

open EventRuns

universe u

variable {Total Value Other : Type u} [AddMonoid Total]

/-- Whatever the counter is, the program returns `value` and adds `amount`. -/
def Adds (program : StateM Total Value) (value : Value) (amount : Total) : Prop :=
  ∀ counter, program counter = (value, counter + amount)

namespace Adds

variable {program : StateM Total Value} {value : Value} {amount : Total}

/-- A program that leaves the counter alone. -/
theorem pure (value : Value) : Adds (pure value : StateM Total Value) value 0 := by
  intro counter
  rw [add_zero]
  rfl

/-- One program after the other. -/
theorem bind {next : Value → StateM Total Other} {other : Other} {more : Total}
    (first : Adds program value amount) (second : Adds (next value) other more) :
    Adds (program >>= next) other (amount + more) := by
  intro counter
  have ran : (program >>= next) counter = next (program counter).1 (program counter).2 := rfl
  rw [ran, first counter, second, add_assoc]

/-- What follows leaves the counter alone at the value that is returned. -/
theorem bind_pure {next : Value → StateM Total Other} {other : Other}
    (first : Adds program value amount) (second : next value = Pure.pure other) :
    Adds (program >>= next) other amount := by
  have both := first.bind (second ▸ Adds.pure other)
  rwa [add_zero] at both

/-- Something is made of the value. -/
theorem andReturn (adds : Adds program value amount) (f : Value → Other) :
    Adds (do return f (← program)) (f value) amount := by
  intro counter
  have ran : (do return f (← program) : StateM Total Other) counter =
      (f (program counter).1, (program counter).2) := rfl
  rw [ran, adds counter]

/-- The value is the one that is returned when the counter is zero. -/
theorem value_eq (adds : Adds program value amount) : (program 0).1 = value := by
  rw [adds 0]

end Adds

/-! ## Loops that exceptions leave -/

section Loops

variable {State Item : Type u}

/-- Handle the items of a list one after another, as long as each turn returns. -/
def eachM (turn : State → Item → StateM Total (Handled State)) (start : State) :
    List Item → StateM Total (Handled State)
  | [] => pure (.returned start)
  | item :: items => do
      match ← turn start item with
      | .returned s => eachM turn s items
      | left => pure left

/-- **A loop adds what the turns add that it comes to.** -/
theorem adds_eachM {turn : State → Item → StateM Total (Handled State)}
    {next : State → Item → Handled State} {amount : Item → Total} (invariant : State → Prop)
    (adds : ∀ s item, invariant s → Adds (turn s item) (next s item) (amount item))
    (keeps : ∀ s item s', invariant s → next s item = .returned s' → invariant s')
    (items : List Item) {start : State} (holds : invariant start) :
    Adds (eachM turn start items) (Handled.each next start items)
      ((Handled.visited next start items).map amount).sum := by
  induction items generalizing start with
  | nil => exact Adds.pure (Handled.returned start)
  | cons item items ih =>
      have first := adds start item holds
      rw [Handled.each_cons, Handled.visited, List.map_cons, List.sum_cons]
      cases turned : next start item with
      | returned s =>
          rw [turned] at first
          exact first.bind (ih (keeps start item s holds turned))
      | threw s =>
          rw [turned] at first
          exact first.bind (Adds.pure (Handled.threw s))
      | stopped s =>
          rw [turned] at first
          exact first.bind (Adds.pure (Handled.stopped s))

end Loops

end Tallies
