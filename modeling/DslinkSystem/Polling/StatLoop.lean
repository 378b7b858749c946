import DslinkSystem.Polling.PollSide

/-!
# The loop over the stat nodes

A turn of the loop sets the value of its node when the node is subscribed and its getter has a
result. The exception of a getter without a result leaves the loop, so that the first node that
is `blocked` (subscribed, and its getter throws) is the last one the loop comes to.

The loop is left with an exception exactly when a node is blocked. Up to there it calls
`handle_value` on each subscribed node, and sets the value of each but the one it is left at
(`statCallback_of_clear`, `statCallback_of_blocked`).
-/

set_option autoImplicit false

namespace DslinkSystem

open EventRuns

variable {target : Platform}

theorem StatNode.nodup_all (target : Platform) : (StatNode.all target).Nodup := by
  have keys : StatKey.all.Nodup := by decide
  refine keys.filterMap fun first second node fromFirst fromSecond => ?_
  simp only [Option.mem_def, Option.dite_none_right_eq_some, Option.some.injEq] at *
  obtain ⟨_, rfl⟩ := fromFirst
  obtain ⟨_, same⟩ := fromSecond
  exact (congrArg Subtype.val same).symm

/-- The nodes before a node in the order of the map. -/
def StatNode.before (key : StatNode target) : List (StatNode target) :=
  (StatNode.all target).takeWhile (· != key)

theorem StatNode.before_eq {key : StatNode target} {before after : List (StatNode target)}
    (order : StatNode.all target = before ++ key :: after) : StatNode.before key = before := by
  have distinct := StatNode.nodup_all target
  rw [order, List.nodup_append] at distinct
  have others : ∀ other ∈ before, (other != key) = true := by
    intro other member
    simpa using distinct.2.2 other member key List.mem_cons_self
  rw [StatNode.before, order, List.takeWhile_append_of_pos others,
    List.takeWhile_cons_of_neg (by simp), List.append_nil]

theorem StatNode.any_all_iff {test : StatNode target → Bool} :
    (StatNode.all target).any test = true ↔ ∃ key, test key = true := by
  rw [List.any_eq_true]
  constructor
  · rintro ⟨key, -, passes⟩
    exact ⟨key, passes⟩
  · rintro ⟨key, passes⟩
    exact ⟨key, StatNode.mem_all key, passes⟩

namespace PollSide

variable {side : PollSide target} {read : StatNode target → Option String}

/-- Every stat node is dynamic. -/
def AllDynamic (side : PollSide target) : Prop := ∀ key, (side.nodes key).dynamic = true

/-- The node is subscribed. -/
def subscribed (side : PollSide target) (key : StatNode target) : Bool :=
  (side.nodes key).subscribeState

/-- A node that is subscribed and whose getter has no result. -/
def blocked (side : PollSide target) (read : StatNode target → Option String)
    (key : StatNode target) : Bool := side.subscribed key && (read key).isNone

theorem AllDynamic.setNode (dynamic : side.AllDynamic) (key : StatNode target)
    {node : InfoDsLinkNodeBase} (isDynamic : node.dynamic = true) :
    (side.setNode key node).AllDynamic := by
  intro other
  by_cases here : other = key
  · subst here
    simp [PollSide.setNode, isDynamic]
  · simp [PollSide.setNode, here, dynamic other]

theorem subscribed_of_blocked {key : StatNode target} (blocks : side.blocked read key = true) :
    side.subscribed key = true :=
  (Bool.and_eq_true_iff.mp blocks).1

/-! ## One turn -/

/-- What the turns on `keys` leave of a loop that began at a node: they set the values of the
subscribed ones, and leave everything else. -/
structure Looped (side : PollSide target) (read : StatNode target → Option String)
    (keys : List (StatNode target)) (done : CallbackRun target) : Prop where
  timer : done.side.timer = side.timer
  pollRate : done.side.pollRate = side.pollRate
  networkInterfaces : done.side.networkInterfaces = side.networkInterfaces
  dynamic : done.side.AllDynamic
  subscribed : ∀ key, done.side.subscribed key = side.subscribed key
  subsCallback : ∀ key, (done.side.nodes key).subsCallback = (side.nodes key).subsCallback
  value : ∀ key, (done.side.nodes key).value =
    if key ∈ keys ∧ side.subscribed key = true then read key else (side.nodes key).value
  calls : done.calls = (keys.filter side.subscribed).map .stat
  sets : done.sets = keys.filter side.subscribed
  anySubs : done.anySubs = keys.any side.subscribed

theorem looped_start (dynamic : side.AllDynamic) : Looped side read [] ⟨side, [], [], false⟩ where
  timer := rfl
  pollRate := rfl
  networkInterfaces := rfl
  dynamic := dynamic
  subscribed _ := rfl
  subsCallback _ := rfl
  value _ := by simp
  calls := rfl
  sets := rfl
  anySubs := rfl

variable {keys : List (StatNode target)} {done : CallbackRun target}

/-- A turn on a node that is not subscribed does nothing. -/
theorem Looped.skip (looped : Looped side read keys done) {key : StatNode target}
    (off : side.subscribed key = false) :
    pollNode read done key = .returned done ∧ Looped side read (keys ++ [key]) done := by
  have same : (done.side.nodes key).subscribeState = false := (looped.subscribed key).trans off
  refine ⟨by simp [pollNode, InfoDsLinkNodeBase.getSubsState, same], looped.timer, looped.pollRate,
    looped.networkInterfaces, looped.dynamic, looped.subscribed, looped.subsCallback, ?_, ?_, ?_,
    ?_⟩
  · intro other
    rw [looped.value other]
    by_cases here : other = key
    · subst here
      simp [off]
    · simp [here]
  · simp [looped.calls, off]
  · simp [looped.sets, off]
  · simp [looped.anySubs, off]

/-- A turn on a subscribed node whose getter returns sets its value. -/
theorem Looped.set (looped : Looped side read keys done) {key : StatNode target}
    (on : side.subscribed key = true) {text : String} (reads : read key = some text) :
    ∃ after, pollNode read done key = .returned after ∧
      Looped side read (keys ++ [key]) after := by
  have same : (done.side.nodes key).subscribeState = true := (looped.subscribed key).trans on
  have isDynamic := looped.dynamic key
  refine ⟨{ side := done.side.setNode key ((done.side.nodes key).handleValue text)
            calls := done.calls ++ [.stat key]
            sets := done.sets ++ [key]
            anySubs := true }, ?_, looped.timer, looped.pollRate, looped.networkInterfaces,
    looped.dynamic.setNode key (by simp [isDynamic]), ?_, ?_, ?_, ?_, ?_, ?_⟩
  · simp [pollNode, InfoDsLinkNodeBase.getSubsState, same, isDynamic, reads]
  · intro other
    rw [← looped.subscribed other]
    by_cases here : other = key
    · subst here
      simp [PollSide.subscribed, setNode]
    · simp [PollSide.subscribed, setNode, here]
  · intro other
    rw [← looped.subsCallback other]
    by_cases here : other = key
    · subst here
      simp [setNode]
    · simp [setNode, here]
  · intro other
    by_cases here : other = key
    · subst here
      simp [setNode, InfoDsLinkNodeBase.handleValue, InfoDsLinkNodeBase.updateValue, isDynamic,
        on, reads]
    · simp [setNode, here, looped.value other]
  · simp [looped.calls, on]
  · simp [looped.sets, on]
  · simp [on]

/-- A turn on a node that is not blocked returns. -/
theorem Looped.turn (looped : Looped side read keys done) {key : StatNode target}
    (clear : side.blocked read key = false) :
    ∃ after, pollNode read done key = .returned after ∧
      Looped side read (keys ++ [key]) after := by
  cases on : side.subscribed key with
  | false => exact ⟨done, looped.skip on⟩
  | true =>
      obtain ⟨text, reads⟩ : ∃ text, read key = some text := by
        simpa [blocked, on, Option.isSome_iff_exists] using clear
      exact looped.set on reads

/-- A turn on a blocked node calls `handle_value`, and is left by the exception. -/
theorem Looped.throws (looped : Looped side read keys done) {key : StatNode target}
    (blocks : side.blocked read key = true) :
    pollNode read done key = .threw { done with calls := done.calls ++ [.stat key] } := by
  have on : (done.side.nodes key).subscribeState = true :=
    (looped.subscribed key).trans (subscribed_of_blocked blocks)
  have unread : read key = none := by simpa using (Bool.and_eq_true_iff.mp blocks).2
  simp [pollNode, InfoDsLinkNodeBase.getSubsState, on, looped.dynamic key, unread]

/-- After a turn that returned the loop has come to one more node. -/
theorem Looped.next (looped : ∃ keys, Looped side read keys done) {key : StatNode target}
    {after : CallbackRun target} (turned : pollNode read done key = .returned after) :
    ∃ keys, Looped side read keys after := by
  obtain ⟨keys, looped⟩ := looped
  cases blocks : side.blocked read key with
  | true =>
      rw [looped.throws blocks] at turned
      cases turned
  | false =>
      obtain ⟨after', turned', looped'⟩ := looped.turn blocks
      obtain rfl := Handled.returned.inj (turned'.symm.trans turned)
      exact ⟨_, looped'⟩

/-! ## The loop -/

/-- The loop over nodes none of which is blocked comes to all of them. -/
theorem looped_each (dynamic : side.AllDynamic) (keys : List (StatNode target))
    (clear : ∀ key ∈ keys, side.blocked read key = false) :
    ∃ done, Handled.each (pollNode read) ⟨side, [], [], false⟩ keys = .returned done ∧
      Looped side read keys done :=
  Handled.each_returns (fun _ _ _ clear looped => looped.turn clear) keys clear
    (looped_start dynamic)

/-- **With no node blocked the callback comes to every node**, and returns. -/
theorem statCallback_of_clear (dynamic : side.AllDynamic)
    (clear : ∀ key, side.blocked read key = false) :
    ∃ done, side.statCallback read = .returned done ∧
      Looped side read (StatNode.all target) done :=
  looped_each dynamic (StatNode.all target) fun key _ => clear key

/-- **A blocked node leaves the nodes after it as they were**: the callback ends with an
exception, and it came to the nodes before it and to the blocked node itself. -/
theorem statCallback_of_blocked (dynamic : side.AllDynamic) {before after : List (StatNode target)}
    {first : StatNode target} (order : StatNode.all target = before ++ first :: after)
    (clear : ∀ key ∈ before, side.blocked read key = false)
    (blocks : side.blocked read first = true) :
    ∃ done, side.statCallback read =
        .threw { done with calls := done.calls ++ [.stat first] } ∧
      Looped side read before done := by
  obtain ⟨done, ran, looped⟩ := looped_each dynamic before clear
  refine ⟨done, ?_, looped⟩
  rw [statCallback, order]
  exact Handled.each_throws ran (looped.throws blocks) after

/-- No node is blocked, or there is a first one. -/
theorem clear_or_blocked (side : PollSide target) (read : StatNode target → Option String) :
    (∀ key, side.blocked read key = false) ∨
      ∃ before first after, StatNode.all target = before ++ first :: after ∧
        (∀ key ∈ before, side.blocked read key = false) ∧ side.blocked read first = true := by
  cases found : (StatNode.all target).find? (side.blocked read) with
  | none =>
      refine .inl fun key => ?_
      simpa using List.find?_eq_none.mp found key (StatNode.mem_all key)
  | some first =>
      obtain ⟨blocks, before, after, order, clear⟩ := List.find?_eq_some_iff_append.mp found
      exact .inr ⟨before, first, after, order, fun key member => by simpa using clear key member,
        blocks⟩

/-- **The loop over the stat nodes**: it came to some nodes and returned, or was left at the
node after them. -/
theorem statCallback_cases (dynamic : side.AllDynamic)
    (read : StatNode target → Option String) :
    ∃ keys done, Looped side read keys done ∧
      ((keys = StatNode.all target ∧ (∀ key, side.blocked read key = false) ∧
          side.statCallback read = .returned done) ∨
        ∃ first after, StatNode.all target = keys ++ first :: after ∧
          side.blocked read first = true ∧
          side.statCallback read =
            .threw { done with calls := done.calls ++ [.stat first] }) := by
  rcases clear_or_blocked side read with clear | ⟨before, first, after, order, clear, blocks⟩
  · obtain ⟨done, ran, looped⟩ := statCallback_of_clear dynamic clear
    exact ⟨_, done, looped, .inl ⟨rfl, clear, ran⟩⟩
  · obtain ⟨done, ran, looped⟩ := statCallback_of_blocked dynamic order clear blocks
    exact ⟨before, done, looped, .inr ⟨first, after, order, blocks, ran⟩⟩

/-- The loop leaves `Network_Interfaces` alone. -/
theorem networkInterfaces_statCallback (dynamic : side.AllDynamic)
    (read : StatNode target → Option String) :
    (side.statCallback read).state.side.networkInterfaces = side.networkInterfaces := by
  obtain ⟨keys, done, looped, ⟨-, -, ran⟩ | ⟨first, after, -, -, ran⟩⟩ :=
    statCallback_cases dynamic read
  all_goals
    rw [ran]
    exact looped.networkInterfaces

/-! ## The nodes that the loop comes to -/

/-- The loop comes to the node: no node before it is blocked. -/
def comesTo (side : PollSide target) (read : StatNode target → Option String)
    (key : StatNode target) : Bool := !(StatNode.before key).any (side.blocked read)

theorem comesTo_of_clear (clear : ∀ key, side.blocked read key = false) (key : StatNode target) :
    side.comesTo read key = true := by
  simp [comesTo, clear]

/-- The loop comes to the nodes before the first blocked one, and to that one. -/
theorem comesTo_of_blocked {before after : List (StatNode target)} {first : StatNode target}
    (order : StatNode.all target = before ++ first :: after)
    (clear : ∀ key ∈ before, side.blocked read key = false)
    (blocks : side.blocked read first = true) (key : StatNode target) :
    side.comesTo read key = true ↔ key ∈ before ++ [first] := by
  have member := StatNode.mem_all key
  rw [order, List.mem_append, List.mem_cons] at member
  rcases member with inBefore | rfl | inAfter
  · obtain ⟨front, rest, rfl⟩ := List.append_of_mem inBefore
    have order' : StatNode.all target = front ++ key :: (rest ++ first :: after) := by
      simpa using order
    refine iff_of_true ?_ (by simp)
    rw [comesTo, StatNode.before_eq order']
    simpa using fun other (here : other ∈ front) => clear other (by simp [here])
  · refine iff_of_true ?_ (by simp)
    rw [comesTo, StatNode.before_eq order]
    simpa using clear
  · obtain ⟨front, rest, rfl⟩ := List.append_of_mem inAfter
    have order' : StatNode.all target = (before ++ first :: front) ++ key :: rest := by
      simpa using order
    have distinct := StatNode.nodup_all target
    rw [order', List.nodup_append] at distinct
    refine iff_of_false ?_ fun member => ?_
    · rw [comesTo, StatNode.before_eq order']
      simp [blocks]
    · have inFront : key ∈ before ++ first :: front := by
        rw [List.mem_append, List.mem_singleton] at member
        simp only [List.mem_append, List.mem_cons]
        exact member.imp_right .inl
      exact distinct.2.2 key inFront key List.mem_cons_self rfl

/-- The nodes that the loop comes to, as the loop has them. -/
theorem visited_statLoop (dynamic : side.AllDynamic) (read : StatNode target → Option String) :
    Handled.visited (pollNode read) ⟨side, [], [], false⟩ (StatNode.all target) =
      (StatNode.all target).filter (side.comesTo read) := by
  rcases clear_or_blocked side read with clear | ⟨before, first, after, order, clear, blocks⟩
  · obtain ⟨done, ran, looped⟩ := statCallback_of_clear dynamic clear
    rw [Handled.visited_of_returned ran]
    exact (List.filter_eq_self.mpr fun key _ => comesTo_of_clear clear key).symm
  · obtain ⟨done, ran, looped⟩ := looped_each dynamic before clear
    have reached := comesTo_of_blocked order clear blocks
    have order' : StatNode.all target = (before ++ [first]) ++ after := by simpa using order
    have distinct := StatNode.nodup_all target
    rw [order', List.nodup_append] at distinct
    have came : Handled.visited (pollNode read) ⟨side, [], [], false⟩ (StatNode.all target) =
        before ++ [first] := by
      rw [order]
      exact Handled.visited_of_threw ran (looped.throws blocks) after
    rw [came, order', List.filter_append]
    have all : (before ++ [first]).filter (side.comesTo read) = before ++ [first] :=
      List.filter_eq_self.mpr fun key member => (reached key).mpr member
    have none : after.filter (side.comesTo read) = [] := by
      refine List.filter_eq_nil_iff.mpr fun key member comes => ?_
      exact distinct.2.2 key ((reached key).mp comes) key member rfl
    rw [all, none, List.append_nil]

/-- **The loop calls `handle_value` on the subscribed nodes that it comes to.** -/
theorem mem_calls_statCallback (dynamic : side.AllDynamic)
    (read : StatNode target → Option String) (key : StatNode target) :
    .stat key ∈ (side.statCallback read).state.calls ↔
      side.subscribed key = true ∧ side.comesTo read key = true := by
  rcases clear_or_blocked side read with clear | ⟨before, first, after, order, clear, blocks⟩
  · obtain ⟨done, ran, looped⟩ := statCallback_of_clear dynamic clear
    rw [ran, Handled.state_returned, looped.calls]
    simp [StatNode.mem_all, comesTo_of_clear clear]
  · obtain ⟨done, ran, looped⟩ := statCallback_of_blocked dynamic order clear blocks
    rw [ran, Handled.state_threw, comesTo_of_blocked order clear blocks, looped.calls]
    have on := subscribed_of_blocked blocks
    simp only [List.mem_append, List.mem_map, List.mem_filter, List.mem_singleton,
      HandleCall.stat.injEq, exists_eq_right]
    constructor
    · rintro (⟨inBefore, isOn⟩ | rfl)
      · exact ⟨isOn, .inl inBefore⟩
      · exact ⟨on, .inr rfl⟩
    · rintro ⟨isOn, inBefore | rfl⟩
      · exact .inl ⟨inBefore, isOn⟩
      · exact .inr rfl

theorem network_not_mem_calls_statCallback (dynamic : side.AllDynamic)
    (read : StatNode target → Option String) :
    .network ∉ (side.statCallback read).state.calls := by
  obtain ⟨keys, done, looped, ⟨-, -, ran⟩ | ⟨first, after, -, -, ran⟩⟩ :=
    statCallback_cases dynamic read
  · simp [ran, looped.calls]
  · simp [ran, looped.calls]

/-- **The loop sets the values of the subscribed nodes that it comes to**, as far as their
getters have a result. -/
theorem value_statCallback (dynamic : side.AllDynamic) (read : StatNode target → Option String)
    (key : StatNode target) :
    ((side.statCallback read).state.side.nodes key).value =
      if side.subscribed key = true ∧ side.comesTo read key = true then
        (read key).or (side.nodes key).value
      else (side.nodes key).value := by
  rcases clear_or_blocked side read with clear | ⟨before, first, after, order, clear, blocks⟩
  · obtain ⟨done, ran, looped⟩ := statCallback_of_clear dynamic clear
    rw [ran, Handled.state_returned, looped.value key]
    cases on : side.subscribed key with
    | false => simp
    | true =>
        obtain ⟨text, reads⟩ : ∃ text, read key = some text := by
          simpa [blocked, on, Option.isSome_iff_exists] using clear key
        simp [StatNode.mem_all, comesTo_of_clear clear, reads]
  · obtain ⟨done, ran, looped⟩ := statCallback_of_blocked dynamic order clear blocks
    have unread : read first = none := by simpa using (Bool.and_eq_true_iff.mp blocks).2
    rw [ran, Handled.state_threw, looped.value key]
    simp only [comesTo_of_blocked order clear blocks, List.mem_append, List.mem_singleton]
    by_cases inBefore : key ∈ before
    · cases on : side.subscribed key with
      | false => simp
      | true =>
          obtain ⟨text, reads⟩ : ∃ text, read key = some text := by
            simpa [blocked, on, Option.isSome_iff_exists] using clear key inBefore
          simp [inBefore, reads]
    · by_cases here : key = first
      · subst here
        simp [inBefore, unread]
      · simp [inBefore, here]

/-! ## What the callback returns -/

/-- What a callback returns: the loop, true when it finds a subscribed node and none is blocked;
the network update, true. -/
def returnsTrue (side : PollSide target) (read : StatNode target → Option String) :
    PollCallback → Bool
  | .statLoop =>
      (StatNode.all target).any side.subscribed && !(StatNode.all target).any (side.blocked read)
  | .networkUpdate => true

theorem returnsTrue_statLoop_iff :
    side.returnsTrue read .statLoop = true ↔
      (∃ key, side.subscribed key = true) ∧ ∀ key, side.blocked read key = false := by
  rw [returnsTrue, Bool.and_eq_true, Bool.not_eq_true', StatNode.any_all_iff,
    ← Bool.not_eq_true, StatNode.any_all_iff]
  simp

end PollSide

end DslinkSystem
