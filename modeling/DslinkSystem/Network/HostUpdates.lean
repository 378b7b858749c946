import DslinkSystem.Network.InterfaceAddresses
import DslinkSystem.Network.Serving

/-!
# The children of `Network_Interfaces` as the host gives them

`update_value()` reads the table of the host and walks over its children to remove those
that vanished. Both can go wrong: the getter reads through the address of an element that
has none, and the walk goes on from an element it erased. This module follows the node
over whole runs as the code is, from the lists of `getifaddrs` on.

* Over tables, a run goes on exactly as long as no table lacks a name that the one before
  it had, and then it is the run in which the removal loop does what is meant
  (`runs_while_names_stay`).
* Over the lists of `getifaddrs`, a run goes on exactly as long as every element has an
  address and no name loses its last address of the internet. Then the children are those
  of the latest list, each is served the words of its addresses in that list, and no
  address is lost or doubled (`host_interfaces_served_iff`).
-/

set_option autoImplicit false

namespace DslinkSystem

open EventRuns TimerSlots MapCursor TextScan

/-! ## The node as the code is -/

/-- `update_value()` as a statement: the program stops where the walk uses an iterator
whose element was erased. -/
def InfoDsLinkNodeNetwork.updated (network : InfoDsLinkNodeNetwork)
    (interfaces : InterfaceTable) : Handled InfoDsLinkNodeNetwork :=
  match network.updateValue interfaces with
  | .finished after => .returned after
  | .invalid left => .stopped left
  | .unfinished left => .stopped left

/-- The handling of one event with the walk of the source. -/
def NetworkEvent.handleReal (network : InfoDsLinkNodeNetwork) :
    NetworkEvent → Handled InfoDsLinkNodeNetwork
  | updateValue interfaces => network.updated interfaces
  | event => event.handle network

/-- The machine of `Network_Interfaces` with the walk of the source. -/
def realNetworkMachine : Machine InfoDsLinkNodeNetwork NetworkEvent :=
  fun network event => (event.handleReal network).next

namespace InfoDsLinkNodeNetwork

variable {network after : InfoDsLinkNodeNetwork} {table : InterfaceTable}

/-- The names of the first table are in the second one. -/
def keepsNames (table interfaces : InterfaceTable) : Prop := ∀ name ∈ table, name ∈ interfaces

/-- No table of the events lacks a name that the one before it had. -/
def NamesStay : InterfaceTable → List NetworkEvent → Prop
  | _, [] => True
  | table, .updateValue interfaces :: events =>
      keepsNames table interfaces ∧ NamesStay interfaces events
  | table, _ :: events => NamesStay table events

/-! ## One step -/

/-- The children are those of a table, and served from it. -/
structure Current (table : InterfaceTable) (network : InfoDsLinkNodeNetwork) : Prop where
  serving : Serving table network
  names : ∀ name, name ∈ network.networkNodes ↔ name ∈ table

/-- **An update goes on exactly when no name vanishes**, and then does what is meant. -/
theorem updated_cases (wf : network.WellFormed) (interfaces : InterfaceTable) :
    ((∀ name ∈ network.networkNodes, name ∈ interfaces) ∧
      network.updated interfaces = .returned (network.reconcile interfaces)) ∨
    (¬ (∀ name ∈ network.networkNodes, name ∈ interfaces) ∧
      ∃ left, network.updated interfaces = .stopped left) := by
  have finishes := updateValue_finishes_iff interfaces wf
  rw [← finishes, updated]
  cases walked : network.updateValue interfaces with
  | finished done =>
      rw [← updateValue_eq_reconcile interfaces walked]
      exact .inl ⟨⟨done, rfl⟩, rfl⟩
  | invalid left => simp
  | unfinished left => simp

/-- When an update comes to its end, it does what is meant. -/
theorem reconcile_of_updated {interfaces : InterfaceTable}
    (ended : (network.updated interfaces).next = some after) :
    after = network.reconcile interfaces := by
  rw [updated] at ended
  cases walked : network.updateValue interfaces with
  | finished done =>
      rw [walked] at ended
      obtain rfl := Option.some.inj ended
      exact updateValue_eq_reconcile interfaces walked
  | invalid left =>
      rw [walked] at ended
      cases ended
  | unfinished left =>
      rw [walked] at ended
      cases ended

/-- A step of the code is a step in which the removal loop does what is meant. -/
theorem network_of_real {event : NetworkEvent}
    (step : realNetworkMachine network event = some after) :
    networkMachine network event = some after := by
  cases event with
  | updateValue interfaces =>
      rw [reconcile_of_updated step]
      rfl
  | subscribeChild child => exact step
  | unsubscribeChild child => exact step
  | tick t => exact step

/-- An update goes on exactly when the table keeps the names. -/
theorem real_updateValue_iff (current : Current table network) (interfaces : InterfaceTable) :
    (∃ after, realNetworkMachine network (.updateValue interfaces) = some after) ↔
      keepsNames table interfaces := by
  have names : (∀ name ∈ network.networkNodes, name ∈ interfaces) ↔
      keepsNames table interfaces := by
    simp only [current.names]
    exact Iff.rfl
  rw [← names, realNetworkMachine, NetworkEvent.handleReal]
  rcases updated_cases current.serving.wf interfaces with ⟨stay, same⟩ | ⟨vanish, left, same⟩
  · simp only [same, Handled.next_returned]
    exact iff_of_true ⟨_, rfl⟩ stay
  · simp only [same, Handled.next_stopped]
    exact iff_of_false (by simp) vanish

/-- Which names have a child is left alone by a subscription of a child. -/
theorem subscribeChild_frame (network : InfoDsLinkNodeNetwork) (child : ℕ) :
    ∃ after, networkMachine network (.subscribeChild child) = some after ∧
      after.networkNodes = network.networkNodes ∧ after.dynamic = network.dynamic := by
  simp only [networkMachine, NetworkEvent.handle, onSubscribeChild]
  cases network.children[child]? with
  | none => exact ⟨_, rfl, rfl, rfl⟩
  | some c =>
      simp only [childSubsCallback, TimerSlot.ensure_eq]
      cases c.subsCallback with
      | false => exact ⟨_, rfl, rfl, rfl⟩
      | true => cases network.networkTimer.armed <;> exact ⟨_, rfl, rfl, rfl⟩

/-- So it is by every event but an update. -/
theorem networkNodes_networkMachine {event : NetworkEvent}
    (other : ∀ interfaces, event ≠ .updateValue interfaces)
    (step : networkMachine network event = some after) :
    after.networkNodes = network.networkNodes ∧ after.dynamic = network.dynamic := by
  cases event with
  | updateValue interfaces => exact absurd rfl (other interfaces)
  | unsubscribeChild child => exact Option.some.inj step ▸ ⟨rfl, rfl⟩
  | tick t =>
      obtain rfl := Option.some.inj step
      cases live : network.networkTimer.runs t with
      | false => simp [networkTick, live]
      | true =>
          rw [networkTick_of_runs live]
          exact ⟨rfl, rfl⟩
  | subscribeChild child =>
      obtain ⟨after', step', same⟩ := subscribeChild_frame network child
      obtain rfl := Option.some.inj (step.symm.trans step')
      exact same

/-- **Every step leaves the children those of the latest table.** -/
theorem Current.step (current : Current table network) {event : NetworkEvent}
    (step : networkMachine network event = some after) :
    Current (recordTable table event) after := by
  obtain ⟨after', step', serving⟩ := networkMachine_serving current.serving event
  obtain rfl := Option.some.inj (step.symm.trans step')
  refine ⟨serving, fun name => ?_⟩
  cases event with
  | updateValue interfaces =>
      obtain rfl := Option.some.inj step
      exact mem_networkNodes_reconcile interfaces current.serving.wf name
  | subscribeChild | unsubscribeChild | tick =>
      rw [(networkNodes_networkMachine (by simp) step).1]
      exact current.names name

theorem current_new : Current ∅ {} where
  serving := Serving.new
  names name := by simp

/-! ## Runs over tables -/

/-- Every event but an update goes on. -/
theorem real_goes_on (current : Current table network) {event : NetworkEvent}
    (other : ∀ interfaces, event ≠ .updateValue interfaces) :
    ∃ after, realNetworkMachine network event = some after := by
  obtain ⟨after, step, -⟩ := networkMachine_serving current.serving event
  cases event with
  | updateValue interfaces => exact absurd rfl (other interfaces)
  | subscribeChild | unsubscribeChild | tick => exact ⟨after, step⟩

/-- A run of the code goes on exactly as long as the names stay. -/
theorem Current.run_iff (current : Current table network) (events : List NetworkEvent) :
    (∃ finish, run realNetworkMachine network events = some finish) ↔ NamesStay table events := by
  induction events generalizing table network with
  | nil => simp [NamesStay]
  | cons event events ih =>
      have onward : ∀ {after}, realNetworkMachine network event = some after →
          ((∃ finish, run realNetworkMachine network (event :: events) = some finish) ↔
            NamesStay (recordTable table event) events) := by
        intro after step
        rw [← ih (current.step (network_of_real step)), run_cons, step, Option.bind_some]
      cases event with
      | updateValue interfaces =>
          constructor
          · rintro ⟨finish, reached⟩
            obtain ⟨after, step, -⟩ := Option.bind_eq_some_iff.mp (run_cons .. ▸ reached)
            exact ⟨(real_updateValue_iff current interfaces).mp ⟨after, step⟩,
              (onward step).mp ⟨finish, reached⟩⟩
          · rintro ⟨stay, later⟩
            obtain ⟨after, step⟩ := (real_updateValue_iff current interfaces).mpr stay
            exact (onward step).mpr later
      | subscribeChild child =>
          obtain ⟨after, step⟩ := @real_goes_on _ _ current (.subscribeChild child) (by simp)
          exact onward step
      | unsubscribeChild child =>
          obtain ⟨after, step⟩ := @real_goes_on _ _ current (.unsubscribeChild child) (by simp)
          exact onward step
      | tick t =>
          obtain ⟨after, step⟩ := @real_goes_on _ _ current (.tick t) (by simp)
          exact onward step

/-- **The removal loop over whole runs.** As the code is, a run goes on to its end exactly
when no table lacks a name that the table before it had; and a run that does is the run
in which the removal loop drops exactly the vanished names. -/
theorem runs_while_names_stay (events : List NetworkEvent) :
    ((∃ network, run realNetworkMachine {} events = some network) ↔ NamesStay ∅ events) ∧
      ∀ network, run realNetworkMachine {} events = some network →
        run networkMachine {} events = some network :=
  ⟨current_new.run_iff events, fun _ => run_refines fun _ _ _ => network_of_real⟩

end InfoDsLinkNodeNetwork

/-! ## From what the host gives on -/

/-- What happens to the node, where an update is given what the getter reads. -/
inductive HostEvent (Answer : Type) where
  | updateValue (answer : Answer)
  | subscribeChild (child : ℕ)
  | unsubscribeChild (child : ℕ)
  | tick (timer : ℕ)

section Host

variable {Answer : Type} (tableOf : Answer → Option InterfaceTable)

/-- The event with the table that the getter returns. There is none when the getter ends
otherwise, and with it the program. -/
def HostEvent.withTable : HostEvent Answer → Option NetworkEvent
  | updateValue answer => (tableOf answer).map .updateValue
  | subscribeChild child => some (.subscribeChild child)
  | unsubscribeChild child => some (.unsubscribeChild child)
  | tick t => some (.tick t)

/-- The machine of `Network_Interfaces` on a host. -/
def hostMachine : Machine InfoDsLinkNodeNetwork (HostEvent Answer) :=
  fun network event => (event.withTable tableOf).bind (realNetworkMachine network)

namespace InfoDsLinkNodeNetwork

/-- Every update has a table, and no table lacks a name that the one before it had. -/
def TablesStay : InterfaceTable → List (HostEvent Answer) → Prop
  | _, [] => True
  | table, .updateValue answer :: events =>
      ∃ interfaces, tableOf answer = some interfaces ∧ keepsNames table interfaces ∧
        TablesStay interfaces events
  | table, _ :: events => TablesStay table events

/-- The table in force after an event. -/
def recordAnswer (table : InterfaceTable) : HostEvent Answer → InterfaceTable
  | .updateValue answer => (tableOf answer).getD ∅
  | _ => table

variable {tableOf}

/-- An event that is no update asks nothing of the tables. -/
theorem mapM_withTable_cons {event : HostEvent Answer} {other : NetworkEvent}
    (translated : event.withTable tableOf = some other)
    (noUpdate : ∀ interfaces, other ≠ .updateValue interfaces) (table : InterfaceTable)
    (events : List (HostEvent Answer)) :
    (∃ tabled, (event :: events).mapM (HostEvent.withTable tableOf) = some tabled ∧
      NamesStay table tabled) ↔
    ∃ tabled, events.mapM (HostEvent.withTable tableOf) = some tabled ∧
      NamesStay table tabled := by
  rw [List.mapM_cons, translated]
  cases events.mapM (HostEvent.withTable tableOf) with
  | none => simp
  | some tabled =>
      cases other with
      | updateValue interfaces => exact absurd rfl (noUpdate interfaces)
      | subscribeChild | unsubscribeChild | tick => simp [NamesStay]

/-- Whether the names stay can be read off what the host gives. -/
theorem mapM_withTable_iff (table : InterfaceTable) (events : List (HostEvent Answer)) :
    (∃ tabled, events.mapM (HostEvent.withTable tableOf) = some tabled ∧
      NamesStay table tabled) ↔ TablesStay tableOf table events := by
  induction events generalizing table with
  | nil => simp [NamesStay, TablesStay]
  | cons event events ih =>
      cases event with
      | updateValue answer =>
          rw [List.mapM_cons, TablesStay, HostEvent.withTable]
          cases gave : tableOf answer with
          | none => simp
          | some interfaces =>
              have later := ih interfaces
              cases mapped : events.mapM (HostEvent.withTable tableOf) with
              | none =>
                  rw [mapped] at later
                  simpa using fun _ => later.not.mp (by simp)
              | some tabled =>
                  rw [mapped] at later
                  simp [NamesStay, ← later]
      | subscribeChild child => exact (mapM_withTable_cons rfl (by simp) _ _).trans (ih table)
      | unsubscribeChild child => exact (mapM_withTable_cons rfl (by simp) _ _).trans (ih table)
      | tick t => exact (mapM_withTable_cons rfl (by simp) _ _).trans (ih table)

/-- The table in force is the latest one that the host gave. -/
theorem foldl_recordTable {events : List (HostEvent Answer)} {tabled : List NetworkEvent}
    (mapped : events.mapM (HostEvent.withTable tableOf) = some tabled) (table : InterfaceTable) :
    tabled.foldl recordTable table = events.foldl (recordAnswer tableOf) table := by
  induction events generalizing table tabled with
  | nil =>
      obtain rfl := Option.some.inj mapped
      rfl
  | cons event events ih =>
      rw [List.mapM_cons] at mapped
      obtain ⟨event', translated, rest⟩ := Option.bind_eq_some_iff.mp mapped
      obtain ⟨tabled', mapped', pure⟩ := Option.bind_eq_some_iff.mp rest
      obtain rfl := Option.some.inj pure
      have same : recordTable table event' = recordAnswer tableOf table event := by
        cases event with
        | updateValue answer =>
            obtain ⟨interfaces, gave, rfl⟩ := Option.map_eq_some_iff.mp translated
            rw [recordAnswer, gave]
            rfl
        | subscribeChild | unsubscribeChild | tick =>
            obtain rfl := Option.some.inj translated
            rfl
      rw [List.foldl_cons, List.foldl_cons, same]
      exact ih mapped' _

/-- **Runs on a host.** The node goes on exactly as long as each update has a table that
keeps the names, and its children are those of the latest table and served from it. -/
theorem run_hostMachine (events : List (HostEvent Answer)) :
    ((∃ network, run (hostMachine tableOf) {} events = some network) ↔
      TablesStay tableOf ∅ events) ∧
    ∀ network, run (hostMachine tableOf) {} events = some network →
      Current (events.foldl (recordAnswer tableOf) ∅) network := by
  have translated : ∀ start, run (hostMachine tableOf) start events =
      (events.mapM (HostEvent.withTable tableOf)).bind (run realNetworkMachine start) :=
    fun start => run_translated _ (fun _ _ => rfl) start events
  constructor
  · rw [translated, ← mapM_withTable_iff]
    cases events.mapM (HostEvent.withTable tableOf) with
    | none => simp
    | some tabled => simpa using current_new.run_iff tabled
  · intro network reached
    rw [translated, Option.bind_eq_some_iff] at reached
    obtain ⟨tabled, mapped, reached⟩ := reached
    have keeps : ∃ finish, run networkMachine {} tabled = some finish ∧
        Current (latestTable tabled) finish :=
      run_reaches recordTable (fun _ => True)
        (fun table before event _ current => by
          obtain ⟨after, step, -⟩ := networkMachine_serving current.serving event
          exact ⟨after, step, current.step step⟩)
        tabled (fun _ _ => trivial) current_new
    obtain ⟨finish, reached', current⟩ := keeps
    have same := run_refines (fun _ _ _ => network_of_real) reached
    obtain rfl := Option.some.inj (reached'.symm.trans same)
    rw [← foldl_recordTable mapped]
    exact current

end InfoDsLinkNodeNetwork

end Host

/-! ## From the lists of `getifaddrs` on -/

/-- The table, when the getter returns one. -/
def InterfacesOutcome.table : InterfacesOutcome → Option InterfaceTable
  | returned interfaces => some interfaces
  | nullPointer => none
  | exited => none

namespace InfoDsLinkNodeNetwork

variable {getnameinfo : SockAddr → Option String}

/-- What `getifaddrs` gives at an update: a list, unless it fails. -/
abbrev IfAddrsEvent := HostEvent (Option (List IfAddrs))

/-- The table for what `getifaddrs` gives. -/
def ifAddrsTable (getnameinfo : SockAddr → Option String) (ifaddr : Option (List IfAddrs)) :
    Option InterfaceTable :=
  (interfacesFrom getnameinfo ifaddr).table

/-- The list has an address of the internet for the name. -/
def HasAddress (elements : List IfAddrs) (name : String) : Prop :=
  ∃ ifa ∈ elements, ifa.ifaName = name ∧ ∃ address, ifa.ifaAddr = some address ∧
    address.isInternet = true

/-- The list in force after an event. -/
def recordElements (elements : List IfAddrs) : IfAddrsEvent → List IfAddrs
  | .updateValue ifaddr => ifaddr.getD []
  | _ => elements

/-- The list of the latest update. -/
def latestElements (events : List IfAddrsEvent) : List IfAddrs := events.foldl recordElements []

/-- Every list is given and has an address for each element, and no name loses its last
address of the internet from one list to the next. -/
def AddressesStay : List IfAddrs → List IfAddrsEvent → Prop
  | _, [] => True
  | elements, .updateValue ifaddr :: events =>
      ∃ elements', ifaddr = some elements' ∧ (∀ ifa ∈ elements', ifa.ifaAddr ≠ none) ∧
        (∀ name, HasAddress elements name → HasAddress elements' name) ∧
          AddressesStay elements' events
  | elements, _ :: events => AddressesStay elements events

/-- Every element has an address when there is a table, and the table lists them. -/
theorem listsAddresses_of_table (gives : GivesHosts getnameinfo) {elements : List IfAddrs}
    {table : InterfaceTable} (gave : ifAddrsTable getnameinfo (some elements) = some table) :
    (∀ ifa ∈ elements, ifa.ifaAddr ≠ none) ∧ ListsAddresses getnameinfo elements table := by
  rw [ifAddrsTable] at gave
  have addressed : ∀ ifa ∈ elements, ifa.ifaAddr ≠ none := by
    intro ifa member missing
    rw [interfacesFrom, collectInterfaces_null gives member missing ∅] at gave
    cases gave
  obtain ⟨table', returned, lists⟩ := (interfacesFrom_returns_iff gives elements).mpr addressed
  rw [returned] at gave
  obtain rfl := Option.some.inj gave
  exact ⟨addressed, lists⟩

/-- A list of elements with addresses has a table, which lists them. -/
theorem exists_table (gives : GivesHosts getnameinfo) {elements : List IfAddrs}
    (addressed : ∀ ifa ∈ elements, ifa.ifaAddr ≠ none) :
    ∃ table, ifAddrsTable getnameinfo (some elements) = some table ∧
      ListsAddresses getnameinfo elements table := by
  obtain ⟨table, returned, lists⟩ := (interfacesFrom_returns_iff gives elements).mpr addressed
  exact ⟨table, by rw [ifAddrsTable, returned]; rfl, lists⟩

theorem listsAddresses_nil : ListsAddresses getnameinfo [] ∅ where
  names name := by simp
  hosts name text there := by simp at there

/-- The names of a table that lists a list are those with an address in it. -/
theorem keepsNames_iff {elements elements' : List IfAddrs} {table table' : InterfaceTable}
    (lists : ListsAddresses getnameinfo elements table)
    (lists' : ListsAddresses getnameinfo elements' table') :
    keepsNames table table' ↔ ∀ name, HasAddress elements name → HasAddress elements' name := by
  constructor
  · intro keeps name has
    exact (lists'.names name).mp (keeps name ((lists.names name).mpr has))
  · intro keeps name member
    exact (lists'.names name).mpr (keeps name ((lists.names name).mp member))

/-- Whether the tables keep the names can be read off the lists. -/
theorem tablesStay_iff (gives : GivesHosts getnameinfo) {elements : List IfAddrs}
    {table : InterfaceTable} (lists : ListsAddresses getnameinfo elements table)
    (events : List IfAddrsEvent) :
    TablesStay (ifAddrsTable getnameinfo) table events ↔ AddressesStay elements events := by
  induction events generalizing elements table with
  | nil => exact Iff.rfl
  | cons event events ih =>
      cases event with
      | subscribeChild child => exact ih lists
      | unsubscribeChild child => exact ih lists
      | tick t => exact ih lists
      | updateValue ifaddr =>
          rw [TablesStay, AddressesStay]
          cases ifaddr with
          | none => simp [ifAddrsTable, interfacesFrom, InterfacesOutcome.table]
          | some elements' =>
              constructor
              · rintro ⟨table', gave, keeps, later⟩
                obtain ⟨addressed, lists'⟩ := listsAddresses_of_table gives gave
                exact ⟨elements', rfl, addressed, (keepsNames_iff lists lists').mp keeps,
                  (ih lists').mp later⟩
              · rintro ⟨_, same, addressed, keeps, later⟩
                obtain rfl := Option.some.inj same
                obtain ⟨table', gave, lists'⟩ := exists_table gives addressed
                exact ⟨table', gave, (keepsNames_iff lists lists').mpr keeps,
                  (ih lists').mpr later⟩

/-- As long as there are tables, the latest one lists the latest list. -/
theorem lists_latest (gives : GivesHosts getnameinfo) {elements : List IfAddrs}
    {table : InterfaceTable} (lists : ListsAddresses getnameinfo elements table)
    {events : List IfAddrsEvent} (stay : AddressesStay elements events) :
    ListsAddresses getnameinfo (events.foldl recordElements elements)
      (events.foldl (recordAnswer (ifAddrsTable getnameinfo)) table) := by
  induction events generalizing elements table with
  | nil => exact lists
  | cons event events ih =>
      cases event with
      | subscribeChild child => exact ih lists stay
      | unsubscribeChild child => exact ih lists stay
      | tick t => exact ih lists stay
      | updateValue ifaddr =>
          obtain ⟨elements', rfl, addressed, -, later⟩ := stay
          obtain ⟨table', gave, lists'⟩ := exists_table gives addressed
          rw [List.foldl_cons, List.foldl_cons, recordAnswer, gave]
          exact ih lists' later

/-- The children are those of a list of the host: one for each name with an address,
served from a table whose words for the name are its addresses in order. -/
structure ServedFrom (getnameinfo : SockAddr → Option String) (elements : List IfAddrs)
    (network : InfoDsLinkNodeNetwork) : Prop where
  names : ∀ name, name ∈ network.networkNodes ↔ HasAddress elements name
  served : ∃ table, Served table network ∧ ∀ name text, table[name]? = some text →
    words text.toList = (hostsOf getnameinfo name elements).map String.toList

/-- **The interfaces of a host are served as long as none vanishes.** Whatever lists
`getifaddrs` gives, and however subscriptions and ticks fall between the updates: the node
goes on exactly as long as every element has an address and no name loses its last address
of the internet; and in every state it reaches, its children are those of the latest list
and are served the addresses that the list has for them. -/
theorem host_interfaces_served_iff (getnameinfo : SockAddr → Option String)
    (gives : GivesHosts getnameinfo) (events : List IfAddrsEvent) :
    ((∃ network, run (hostMachine (ifAddrsTable getnameinfo)) {} events = some network) ↔
      AddressesStay [] events) ∧
    ∀ network, run (hostMachine (ifAddrsTable getnameinfo)) {} events = some network →
      ServedFrom getnameinfo (latestElements events) network := by
  obtain ⟨goes_on, current⟩ := @run_hostMachine _ (ifAddrsTable getnameinfo) events
  rw [tablesStay_iff gives listsAddresses_nil] at goes_on
  refine ⟨goes_on, fun network reached => ?_⟩
  have serving := current network reached
  have lists := lists_latest gives listsAddresses_nil (goes_on.mp ⟨network, reached⟩)
  refine ⟨fun name => (serving.names name).trans (lists.names name), _,
    serving.serving.served, lists.hosts⟩

/-- The loopback interface, and a subscription to its child. -/
theorem host_interfaces_served_loopback :
    GivesHosts loopbackHost ∧
      ∃ network, run (hostMachine (ifAddrsTable loopbackHost)) {}
        [.updateValue (some loopbackElements), .subscribeChild 0] = some network := by
  refine ⟨givesHosts_loopbackHost, ?_⟩
  refine (host_interfaces_served_iff loopbackHost givesHosts_loopbackHost
    [.updateValue (some loopbackElements), .subscribeChild 0]).1.mpr ?_
  refine ⟨loopbackElements, rfl, by simp [loopbackElements], ?_, trivial⟩
  rintro name ⟨ifa, member, -⟩
  cases member

end InfoDsLinkNodeNetwork

end DslinkSystem
