import DslinkSystem.Network.Reconciliation

/-!
# The children of `Network_Interfaces` stay served

Children come and go with the tables, each of them may start the shared timer,
and a client may still subscribe to a child the node dropped. In every state that
a run of the node reaches, at most one timer is armed, a subscribed child of the
current table keeps it armed, and a tick publishes to exactly the subscribed
children of the current table the strings that the latest table has for them
(`children_served`).
-/

set_option autoImplicit false

namespace DslinkSystem

open EventRuns TimerSlots MapCursor

namespace InfoDsLinkNodeNetwork

variable {network : InfoDsLinkNodeNetwork}

/-- The child `child`, with the contents `c`, is the subscribed child of a name. -/
def Subscribed (network : InfoDsLinkNodeNetwork) (name : String) (child : ℕ)
    (c : InfoDsLinkNodeNetworkInterfaces) : Prop :=
  network.networkNodes[name]? = some child ∧ network.children[child]? = some c ∧
    c.subscribeState = true

/-! ## One tick -/

/-- What a turn of the timer's loop does to the child it comes to. -/
def refresh (c : InfoDsLinkNodeNetworkInterfaces) : InfoDsLinkNodeNetworkInterfaces :=
  if c.getSubsState then c.updateValue else c

theorem refresh_idem (c : InfoDsLinkNodeNetworkInterfaces) : refresh (refresh c) = refresh c := by
  unfold refresh
  split
  · split <;> rfl
  · rfl

@[simp] theorem getSubsState_refresh (c : InfoDsLinkNodeNetworkInterfaces) :
    (refresh c).getSubsState = c.getSubsState := by
  unfold refresh
  split <;> rfl

/-- Refreshing the children of a list, some of them more than once, refreshes each
of them. -/
theorem getElem?_foldl_refresh (served : List ℕ) (children : List InfoDsLinkNodeNetworkInterfaces)
    (child : ℕ) :
    (served.foldl (fun cs i => cs.modify i refresh) children)[child]? =
      if child ∈ served then children[child]?.map refresh else children[child]? := by
  induction served generalizing children with
  | nil => rfl
  | cons first served ih =>
      rw [List.foldl_cons, ih, List.getElem?_modify]
      by_cases here : first = child
      · subst here
        split <;> simp [Function.comp_def, refresh_idem]
      · simp [here, Ne.symm here]

theorem length_foldl_refresh (served : List ℕ)
    (children : List InfoDsLinkNodeNetworkInterfaces) :
    (served.foldl (fun cs i => cs.modify i refresh) children).length = children.length := by
  induction served generalizing children with
  | nil => rfl
  | cons first served ih => rw [List.foldl_cons, ih, List.length_modify]

/-- The children that a list of names stands for. -/
def childrenOf (network : InfoDsLinkNodeNetwork) (names : List String) : List ℕ :=
  names.filterMap (network.networkNodes[·]?)

/-- One turn of the timer's loop. -/
theorem serveChild_eq (network : InfoDsLinkNodeNetwork) (any : Bool) (name : String) :
    serveChild (network, any) name =
      match network.networkNodes[name]? with
      | none => (network, any)
      | some child =>
          ({ network with children := network.children.modify child refresh },
            any || (network.children[child]?).any (·.getSubsState)) := by
  cases named : network.networkNodes[name]? with
  | none => simp [serveChild, named]
  | some child =>
      cases on : (network.children[child]?).any (·.getSubsState) with
      | true =>
          have same : network.children.modify child (·.updateValue) =
              network.children.modify child refresh := by
            apply modify_congr
            intro c found
            have flag : c.getSubsState = true := by simpa [found] using on
            rw [refresh, if_pos flag]
          simp [serveChild, named, on, same]
      | false =>
          have same : network.children.modify child refresh = network.children := by
            apply modify_eq_self
            intro c found
            have flag : c.getSubsState = false := by simpa [found] using on
            simp [refresh, flag]
          simp [serveChild, named, on, same]

/-- The timer's loop over a list of names refreshes the children they stand for,
and tells whether one of them is subscribed. -/
theorem foldl_serveChild (names : List String) (network : InfoDsLinkNodeNetwork) (any : Bool) :
    names.foldl serveChild (network, any) =
      ({ network with
          children := (network.childrenOf names).foldl (fun cs i => cs.modify i refresh)
            network.children },
        any || (network.childrenOf names).any fun i =>
          (network.children[i]?).any (·.getSubsState)) := by
  induction names generalizing network any with
  | nil => simp [childrenOf]
  | cons name names ih =>
      rw [List.foldl_cons, serveChild_eq]
      cases named : network.networkNodes[name]? with
      | none => simp [ih, childrenOf, named]
      | some first =>
          have flags : ∀ i : ℕ, ((network.children.modify first refresh)[i]?).any (·.getSubsState) =
              (network.children[i]?).any (·.getSubsState) := by
            intro i
            rw [List.getElem?_modify]
            cases network.children[i]? with
            | none => rfl
            | some c => by_cases here : first = i <;> simp [here]
          simp [ih, childrenOf, named, flags, Bool.or_assoc]

section Tick

variable (network)

theorem mem_childrenOf_keys (child : ℕ) :
    child ∈ network.childrenOf network.networkNodes.keys ↔
      ∃ name : String, network.networkNodes[name]? = some child := by
  simp only [childrenOf, List.mem_filterMap, Std.ExtTreeMap.mem_keys]
  constructor
  · rintro ⟨name, -, named⟩
    exact ⟨name, named⟩
  · rintro ⟨name, named⟩
    exact ⟨name, by simp [Std.ExtTreeMap.mem_iff_isSome_getElem?, named], named⟩

/-- The callback of the timer publishes to the subscribed children of the current
names and to no other child. -/
theorem children_timerCallback (child : ℕ) :
    network.timerCallback.1.children[child]? =
      if child ∈ network.childrenOf network.networkNodes.keys then
        (network.children[child]?).map refresh
      else network.children[child]? := by
  rw [timerCallback, foldl_serveChild]
  exact getElem?_foldl_refresh _ _ _

/-- The callback returns true exactly when some current child is subscribed. -/
theorem timerCallback_any : network.timerCallback.2 = true ↔
    ∃ name child c, Subscribed network name child c := by
  rw [timerCallback, foldl_serveChild, Bool.false_or, List.any_eq_true]
  constructor
  · rintro ⟨child, member, on⟩
    obtain ⟨name, named⟩ := (network.mem_childrenOf_keys child).mp member
    cases found : network.children[child]? with
    | none => simp [found] at on
    | some c =>
        have flag : c.getSubsState = true := by simpa [found] using on
        exact ⟨name, child, c, named, found, flag⟩
  · rintro ⟨name, child, c, named, found, on⟩
    have flag : c.getSubsState = true := on
    exact ⟨child, (network.mem_childrenOf_keys child).mpr ⟨name, named⟩, by simp [found, flag]⟩

/-- The callback of the timer changes nothing but the children. -/
theorem timerCallback_frame : network.timerCallback.1 =
    { network with children := network.timerCallback.1.children } := by
  rw [timerCallback, foldl_serveChild]

/-- A child after the callback: the interface, the callback and the subscription
flag are as before. -/
theorem contents_timerCallback {child : ℕ} {c : InfoDsLinkNodeNetworkInterfaces}
    (found : network.timerCallback.1.children[child]? = some c) :
    ∃ c₀, network.children[child]? = some c₀ ∧ c.interface = c₀.interface ∧
      c.subsCallback = c₀.subsCallback ∧ c.subscribeState = c₀.subscribeState := by
  rw [children_timerCallback] at found
  split at found
  · obtain ⟨c₀, found₀, rfl⟩ := Option.map_eq_some_iff.mp found
    refine ⟨c₀, found₀, ?_⟩
    unfold refresh
    split <;> exact ⟨rfl, rfl, rfl⟩
  · exact ⟨c, found, rfl, rfl, rfl⟩

/-- No child comes or goes in the callback. -/
theorem length_children_timerCallback :
    network.timerCallback.1.children.length = network.children.length := by
  rw [timerCallback, foldl_serveChild]
  exact length_foldl_refresh _ _

variable {network} in
/-- A tick of an armed timer: the children are served, and the timer stays armed
when the callback returned true. -/
theorem networkTick_of_runs {t : ℕ} (live : network.networkTimer.runs t = true) :
    network.networkTick t =
      { network with
        children := network.timerCallback.1.children
        networkTimer := network.networkTimer.setRunning t network.timerCallback.2 } := by
  rw [networkTick, if_pos live]
  simp only
  rw [timerCallback_frame]

end Tick

/-! ## What the events leave alone -/

/-- Every event is handled to the end, and none concerns the subscription of the node
itself. -/
theorem networkMachine_frame (network : InfoDsLinkNodeNetwork) (event : NetworkEvent) :
    ∃ after, networkMachine network event = some after ∧
      after.subscribeState = network.subscribeState ∧
      after.subsCallback = network.subsCallback := by
  cases event with
  | updateValue interfaces =>
      exact ⟨_, rfl, subscribeState_reconcile interfaces, subsCallback_reconcile interfaces⟩
  | unsubscribeChild child => exact ⟨_, rfl, rfl, rfl⟩
  | tick t =>
      cases live : network.networkTimer.runs t with
      | false => exact ⟨_, rfl, by simp [networkTick, live], by simp [networkTick, live]⟩
      | true =>
          refine ⟨_, rfl, ?_⟩
          rw [networkTick_of_runs live]
          exact ⟨rfl, rfl⟩
  | subscribeChild child =>
      simp only [networkMachine, NetworkEvent.handle, onSubscribeChild]
      cases network.children[child]? with
      | none => exact ⟨_, rfl, rfl, rfl⟩
      | some c =>
          simp only [childSubsCallback, TimerSlot.ensure_eq]
          cases c.subsCallback with
          | false => exact ⟨_, rfl, rfl, rfl⟩
          | true => cases network.networkTimer.armed <;> exact ⟨_, rfl, rfl, rfl⟩

/-! ## The invariant -/

/-- What holds of the node after every run whose last table is `table`. -/
structure Serving (table : InterfaceTable) (network : InfoDsLinkNodeNetwork) : Prop where
  wf : network.WellFormed
  holds : ∀ {name : String} {child : ℕ} {c : InfoDsLinkNodeNetworkInterfaces},
    network.networkNodes[name]? = some child → network.children[child]? = some c →
      table[name]? = some c.interface
  callbacks : ∀ {child : ℕ} {c : InfoDsLinkNodeNetworkInterfaces},
    network.children[child]? = some c → c.subsCallback = true
  oneLive : network.networkTimer.OneLive
  armed : ∀ {name : String} {child : ℕ} {c : InfoDsLinkNodeNetworkInterfaces},
    Subscribed network name child c → network.networkTimer.armed = true

namespace Serving

variable {table : InterfaceTable}

theorem new : Serving ∅ {} where
  wf := wellFormed_new
  holds named := by simp at named
  callbacks found := by simp at found
  oneLive := TimerSlot.OneLive.empty
  armed subscribed := by simp [Subscribed] at subscribed

/-- A new table brings the node to hold its strings. -/
theorem reconcile (serving : Serving table network) (interfaces : InterfaceTable) :
    Serving interfaces (network.reconcile interfaces) := by
  have wf := serving.wf
  have outcome := reconcile_reconciled wf interfaces
  have ext := extends_updateEntries interfaces wf
  have mem_of_named : ∀ {name : String} {child : ℕ},
      (network.reconcile interfaces).networkNodes[name]? = some child → name ∈ interfaces := by
    intro name child named
    rw [← mem_networkNodes_reconcile interfaces wf]
    simp [Std.ExtTreeMap.mem_iff_isSome_getElem?, named]
  refine ⟨wf.reconcile interfaces, ?_, ?_, ?_, ?_⟩
  · intro name child c named found
    have inTable := mem_of_named named
    rw [Std.ExtTreeMap.mem_iff_isSome_getElem?, Option.isSome_iff_exists] at inTable
    obtain ⟨interface, inTable⟩ := inTable
    obtain ⟨c', at_name, string⟩ := outcome.holds inTable
    rw [childAt, named, Option.bind_some, found] at at_name
    rw [inTable, ← string, Option.some.inj at_name]
  · intro child c found
    rw [children_reconcile] at found
    rcases Nat.lt_or_ge child network.children.length with within | beyond
    · have at_child := List.getElem?_eq_getElem within
      obtain ⟨interface, found'⟩ := ext.old at_child
      rw [Option.some.inj (found.symm.trans found')]
      have callback := serving.callbacks at_child
      exact callback
    · rw [(ext.new found beyond).1]
  · rw [networkTimer_reconcile interfaces]
    exact serving.oneLive
  · rintro name child c ⟨named, found, on⟩
    rw [networkTimer_reconcile interfaces]
    have inTable := mem_of_named named
    by_cases present : name ∈ network.networkNodes
    · -- the child of a name that stays is the same object with the same flag
      obtain ⟨c₀, at_name⟩ := wf.exists_childAt present
      obtain ⟨child₀, named₀, found₀⟩ := Option.bind_eq_some_iff.mp at_name
      obtain ⟨named', -, c', found', flag⟩ := outcome.same inTable named₀ found₀
      obtain rfl := Option.some.inj (named.symm.trans named')
      obtain rfl := Option.some.inj (found.symm.trans found')
      exact serving.armed ⟨named₀, found₀, flag ▸ on⟩
    · obtain ⟨child', c', -, named', -, found', off, -⟩ := outcome.new inTable present
      obtain rfl := Option.some.inj (named.symm.trans named')
      obtain rfl := Option.some.inj (found.symm.trans found')
      rw [off] at on
      cases on

/-- The subscription callback of a child leaves the timer armed. -/
theorem childSubsCallback (serving : Serving table network) :
    ∃ after, network.childSubsCallback = .returned after ∧ Serving table after ∧
      after.networkTimer.armed = true ∧ after.children = network.children := by
  rw [InfoDsLinkNodeNetwork.childSubsCallback, TimerSlot.ensure_eq]
  split
  · next live => exact ⟨network, rfl, serving, live, rfl⟩
  · next off =>
      have dead : network.networkTimer.armed = false := by simpa using off
      refine ⟨_, rfl, ?_, TimerSlot.armed_assign _ _, rfl⟩
      exact ⟨⟨serving.wf.created, serving.wf.distinct, serving.wf.listed⟩, serving.holds,
        serving.callbacks, serving.oneLive.assign dead _ _, fun _ => TimerSlot.armed_assign _ _⟩

theorem getElem?_setSubscribed (network : InfoDsLinkNodeNetwork) (child other : ℕ) (on : Bool) :
    (network.setSubscribed child on).children[other]? =
      if child = other then (network.children[other]?).map fun c => { c with subscribeState := on }
      else network.children[other]? := by
  simp only [setSubscribed, List.getElem?_modify]
  split <;> simp

/-- Setting a subscription flag keeps the invariant when a set flag finds the
timer armed. -/
theorem setSubscribed (serving : Serving table network) (child : ℕ) (on : Bool)
    (timer : on = true → network.networkTimer.armed = true) :
    Serving table (network.setSubscribed child on) := by
  have contents : ∀ {other : ℕ} {c : InfoDsLinkNodeNetworkInterfaces},
      (network.setSubscribed child on).children[other]? = some c →
        ∃ c₀, network.children[other]? = some c₀ ∧ c.interface = c₀.interface ∧
          c.subsCallback = c₀.subsCallback ∧
            (c.subscribeState = true → c₀.subscribeState = true ∨ on = true) := by
    intro other c found
    rw [getElem?_setSubscribed] at found
    split at found
    · obtain ⟨c₀, found₀, rfl⟩ := Option.map_eq_some_iff.mp found
      exact ⟨c₀, found₀, rfl, rfl, .inr⟩
    · exact ⟨c, found, rfl, rfl, .inl⟩
  refine ⟨⟨?_, serving.wf.distinct, serving.wf.listed⟩, ?_, ?_, serving.oneLive, ?_⟩
  · intro name other named
    simpa [InfoDsLinkNodeNetwork.setSubscribed] using serving.wf.created named
  · intro name other c named found
    obtain ⟨c₀, found₀, string, -, -⟩ := contents found
    rw [string]
    exact serving.holds named found₀
  · intro other c found
    obtain ⟨c₀, found₀, -, callback, -⟩ := contents found
    rw [callback]
    exact serving.callbacks found₀
  · rintro name other c ⟨named, found, subscribed⟩
    obtain ⟨c₀, found₀, -, -, flag⟩ := contents found
    rcases flag subscribed with before | now
    · exact serving.armed ⟨named, found₀, before⟩
    · exact timer now

/-- A subscription returns, and keeps the invariant. -/
theorem onSubscribeChild (serving : Serving table network) (child : ℕ) :
    ∃ after, network.onSubscribeChild child = .returned after ∧ Serving table after := by
  unfold InfoDsLinkNodeNetwork.onSubscribeChild
  cases found : network.children[child]? with
  | none => exact ⟨network, rfl, serving⟩
  | some c =>
      obtain ⟨middle, returned, kept, live, -⟩ := serving.childSubsCallback
      simp only [serving.callbacks found, if_true, returned, Handled.returned_andThen]
      exact ⟨_, rfl, kept.setSubscribed child true fun _ => live⟩

/-- A tick keeps the invariant: the timer stays armed when some current child is
subscribed. -/
theorem networkTick (serving : Serving table network) (t : ℕ) :
    Serving table (network.networkTick t) := by
  cases live : network.networkTimer.runs t with
  | false =>
      rw [InfoDsLinkNodeNetwork.networkTick, live]
      exact serving
  | true =>
      rw [networkTick_of_runs live]
      refine ⟨⟨fun named => ?_, serving.wf.distinct, serving.wf.listed⟩, ?_, ?_,
        serving.oneLive.setRunning live _, ?_⟩
      · rw [length_children_timerCallback]
        exact serving.wf.created named
      · intro name child c named found
        obtain ⟨c₀, found₀, string, -, -⟩ := network.contents_timerCallback found
        rw [string]
        exact serving.holds named found₀
      · intro child c found
        obtain ⟨c₀, found₀, -, callback, -⟩ := network.contents_timerCallback found
        rw [callback]
        exact serving.callbacks found₀
      · rintro name child c ⟨named, found, on⟩
        obtain ⟨c₀, found₀, -, -, flag⟩ := network.contents_timerCallback found
        have any : network.timerCallback.2 = true :=
          network.timerCallback_any.mpr ⟨name, child, c₀, named, found₀, flag ▸ on⟩
        exact (serving.oneLive.armed_setRunning live _).trans any

end Serving

/-! ## Runs -/

/-- The table in force after an event. -/
def recordTable (table : InterfaceTable) : NetworkEvent → InterfaceTable
  | .updateValue interfaces => interfaces
  | _ => table

/-- The table of the latest `update_value`. -/
def latestTable (events : List NetworkEvent) : InterfaceTable := events.foldl recordTable ∅

/-- Every event is handled to the end and keeps the invariant. -/
theorem networkMachine_serving {table : InterfaceTable} (serving : Serving table network)
    (event : NetworkEvent) :
    ∃ after, networkMachine network event = some after ∧
      Serving (recordTable table event) after := by
  cases event with
  | updateValue interfaces => exact ⟨_, rfl, serving.reconcile interfaces⟩
  | subscribeChild child =>
      obtain ⟨after, returned, kept⟩ := serving.onSubscribeChild child
      exact ⟨after, by rw [networkMachine, NetworkEvent.handle, returned]; rfl, kept⟩
  | unsubscribeChild child =>
      exact ⟨_, rfl, serving.setSubscribed child false fun on => by cases on⟩
  | tick t => exact ⟨_, rfl, serving.networkTick t⟩

/-- Every run reaches a state, and the invariant holds there of the latest table. -/
theorem run_serving (events : List NetworkEvent) :
    ∃ network, run networkMachine {} events = some network ∧
      Serving (latestTable events) network := by
  have handles : ∀ table network event, True → Serving table network →
      ∃ after, networkMachine network event = some after ∧
        Serving (recordTable table event) after :=
    fun _ _ event _ serving => networkMachine_serving serving event
  exact run_reaches recordTable _ handles events (fun _ _ => trivial) Serving.new

/-- What a state whose latest table is `table` owes its subscribers: at most one
timer is armed and it is the one referred to; a subscribed current child keeps it
armed; a tick publishes to each subscribed current child its string of the table,
leaves the other children as they are, and keeps the timer armed exactly when
there is a subscribed current child. -/
structure Served (table : InterfaceTable) (network : InfoDsLinkNodeNetwork) : Prop where
  oneTimer : ∀ {t u : ℕ}, network.networkTimer.runs t = true → network.networkTimer.runs u = true →
    t = u
  referred : ∀ {t : ℕ}, network.networkTimer.runs t = true → network.networkTimer.ref = some t
  armed : ∀ {name : String} {child : ℕ} {c : InfoDsLinkNodeNetworkInterfaces},
    Subscribed network name child c → network.networkTimer.armed = true
  published : ∀ {t : ℕ}, network.networkTimer.runs t = true →
    ∀ {name : String} {child : ℕ} {c : InfoDsLinkNodeNetworkInterfaces},
      Subscribed network name child c → ∃ interface c', table[name]? = some interface ∧
        (network.networkTick t).children[child]? = some c' ∧ c'.value = some interface
  untouched : ∀ {t : ℕ}, network.networkTimer.runs t = true →
    ∀ {child : ℕ} {c : InfoDsLinkNodeNetworkInterfaces}, network.children[child]? = some c →
      (¬ ∃ name, Subscribed network name child c) →
        (network.networkTick t).children[child]? = some c
  staysArmed : ∀ {t : ℕ}, network.networkTimer.runs t = true →
    ((network.networkTick t).networkTimer.armed = true ↔
      ∃ name child c, Subscribed network name child c)

/-- The invariant is enough to serve the children. -/
theorem Serving.served {table : InterfaceTable} (serving : Serving table network) :
    Served table network := by
  refine ⟨serving.oneLive.eq_of_runs, serving.oneLive _, serving.armed, ?_, ?_, ?_⟩
  · intro t live name child c subscribed
    obtain ⟨named, found, on⟩ := subscribed
    have current := (network.mem_childrenOf_keys child).mpr ⟨name, named⟩
    refine ⟨c.interface, c.updateValue, serving.holds named found, ?_, rfl⟩
    rw [networkTick_of_runs live]
    have flag : c.getSubsState = true := on
    simp [children_timerCallback, current, found, refresh, flag]
  · intro t live child c found other
    rw [networkTick_of_runs live]
    by_cases current : child ∈ network.childrenOf network.networkNodes.keys
    · obtain ⟨name, named⟩ := (network.mem_childrenOf_keys child).mp current
      have off : ¬ c.getSubsState = true := fun on => other ⟨name, named, found, on⟩
      simp [children_timerCallback, current, found, refresh, off]
    · simp [children_timerCallback, current, found]
  · intro t live
    rw [networkTick_of_runs live, ← network.timerCallback_any]
    exact iff_of_eq (congrArg (· = true) (serving.oneLive.armed_setRunning live _))

/-- **Interface children stay served.** Every run of the node, over any tables,
subscriptions to children ever created and ticks, reaches a state, and that state
serves the children of the latest table. -/
theorem children_served (events : List NetworkEvent) :
    ∃ network, run networkMachine {} events = some network ∧
      Served (latestTable events) network := by
  obtain ⟨network, reached, serving⟩ := run_serving events
  exact ⟨network, reached, serving.served⟩

end InfoDsLinkNodeNetwork

end DslinkSystem
