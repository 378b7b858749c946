import DslinkSystem.Network.InterfaceNodes
import Mathlib.Data.List.Nodup
import Mathlib.Tactic.Tauto

/-!
# Bringing the interface children in line with a table

`reconcile` leaves exactly one child for each name of the table, holding the
table's string; a child whose name was there before is the same object
(`reconcile_reconciled`). The code's `updateValue` comes to this outcome exactly
when no name vanishes (`updateValue_reconciles_iff`): at the first vanished name
the removal loop erases the element its iterator stands on and then advances the
iterator (`updateValue_vanished_name`).

The loop over the table is followed through two relations: `Extends` says what
one turn keeps and adds, and is transitive; `childAt` frames say that a turn
concerns the child of its own name only.
-/

set_option autoImplicit false

namespace DslinkSystem

open EventRuns TimerSlots MapCursor

namespace InfoDsLinkNodeNetwork

variable {network : InfoDsLinkNodeNetwork}

/-! ## Well-formed nodes -/

/-- The names of `networkNodes` stand for created children, distinct names for
distinct ones, and they are the names of the list children. -/
structure WellFormed (network : InfoDsLinkNodeNetwork) : Prop where
  created : ∀ {name : String} {child : ℕ}, network.networkNodes[name]? = some child →
    child < network.children.length
  distinct : ∀ {name other : String} {child : ℕ}, network.networkNodes[name]? = some child →
    network.networkNodes[other]? = some child → name = other
  listed : ∀ name, name ∈ network.networkNodes ↔ name ∈ network.listChildren

theorem wellFormed_new : WellFormed {} where
  created found := by simp at found
  distinct found := by simp at found
  listed name := by simp

/-- A name of a well-formed node has a child. -/
theorem WellFormed.exists_childAt (wf : network.WellFormed) {name : String}
    (member : name ∈ network.networkNodes) : ∃ c, network.childAt name = some c := by
  rw [Std.ExtTreeMap.mem_iff_isSome_getElem?, Option.isSome_iff_exists] at member
  obtain ⟨child, found⟩ := member
  have created : child < network.children.length := wf.created found
  exact ⟨network.children[child], by simp [childAt, found, created]⟩

/-! ## One turn of the loop over the table -/

@[simp] theorem networkNodes_setInterface (name interface : String) :
    (network.setInterface name interface).networkNodes = network.networkNodes := by
  unfold setInterface
  split <;> rfl

@[simp] theorem listChildren_setInterface (name interface : String) :
    (network.setInterface name interface).listChildren = network.listChildren := by
  unfold setInterface
  split <;> rfl

/-- Only the interface string of the named child changes. -/
theorem children_setInterface (name interface : String) (child : ℕ) :
    (network.setInterface name interface).children[child]? =
      if network.networkNodes[name]? = some child then
        network.children[child]?.map (·.setInterfaceValue interface)
      else network.children[child]? := by
  unfold setInterface
  split
  · next found =>
      rw [List.getElem?_modify]
      simp only [found, Option.some.injEq]
      split <;> simp
  · next found => simp [found]

@[simp] theorem length_children_setInterface (name interface : String) :
    (network.setInterface name interface).children.length = network.children.length := by
  unfold setInterface
  split <;> simp

theorem WellFormed.addChild (wf : network.WellFormed) (name : String) :
    (network.addChild name).WellFormed where
  created {n child} found := by
    simp only [InfoDsLinkNodeNetwork.addChild, Std.ExtTreeMap.getElem?_insert] at found ⊢
    simp only [List.length_append, List.length_singleton]
    split at found
    · have same : network.children.length = child := Option.some.inj found
      omega
    · have old := wf.created found
      omega
  distinct {n m child} first second := by
    simp only [InfoDsLinkNodeNetwork.addChild, Std.ExtTreeMap.getElem?_insert,
      Std.LawfulEqCmp.compare_eq_iff_eq] at first second
    split at first <;> split at second
    · next h h' => exact h.symm.trans h'
    · have old := wf.created second
      have same : network.children.length = child := Option.some.inj first
      omega
    · have old := wf.created first
      have same : network.children.length = child := Option.some.inj second
      omega
    · exact wf.distinct first second
  listed n := by
    simp [InfoDsLinkNodeNetwork.addChild, wf.listed]

theorem WellFormed.setInterface (wf : network.WellFormed) (name interface : String) :
    (network.setInterface name interface).WellFormed where
  created found := by
    rw [networkNodes_setInterface] at found
    simpa using wf.created found
  distinct first second := by
    rw [networkNodes_setInterface] at first second
    exact wf.distinct first second
  listed n := by simpa using wf.listed n

theorem WellFormed.updateEntry (wf : network.WellFormed) (entry : String × String) :
    (network.updateEntry entry).WellFormed := by
  unfold InfoDsLinkNodeNetwork.updateEntry
  split
  · exact (wf.addChild _).setInterface _ _
  · exact wf.setInterface _ _

/-- After a turn the names are the old ones and the one of the entry. -/
theorem mem_networkNodes_updateEntry (entry : String × String) (name : String) :
    name ∈ (network.updateEntry entry).networkNodes ↔
      name ∈ network.networkNodes ∨ name = entry.1 := by
  unfold updateEntry
  split
  · simp [addChild, or_comm, eq_comm (a := name)]
  · next present =>
      have member : entry.1 ∈ network.networkNodes := by simpa using present
      simp only [networkNodes_setInterface]
      constructor
      · exact Or.inl
      · rintro (old | rfl)
        · exact old
        · exact member

/-- A turn gives the child of its own name the string of the entry. -/
theorem childAt_updateEntry_self (wf : network.WellFormed) (entry : String × String) :
    ∃ c, (network.updateEntry entry).childAt entry.1 = some c ∧ c.interface = entry.2 := by
  have wf' := wf.updateEntry entry
  have member : entry.1 ∈ (network.updateEntry entry).networkNodes :=
    (mem_networkNodes_updateEntry entry entry.1).mpr (.inr rfl)
  obtain ⟨c, found⟩ := wf'.exists_childAt member
  refine ⟨c, found, ?_⟩
  simp only [childAt, Option.bind_eq_some_iff] at found
  obtain ⟨child, named, at_child⟩ := found
  unfold updateEntry at named at_child
  rw [networkNodes_setInterface] at named
  rw [children_setInterface, if_pos named, Option.map_eq_some_iff] at at_child
  obtain ⟨old, -, rfl⟩ := at_child
  rfl

/-- A turn leaves the child of every other name alone. -/
theorem childAt_updateEntry_of_ne (wf : network.WellFormed) (entry : String × String)
    {name : String} (ne : name ≠ entry.1) (member : name ∈ network.networkNodes) :
    (network.updateEntry entry).childAt name = network.childAt name := by
  rw [Std.ExtTreeMap.mem_iff_isSome_getElem?, Option.isSome_iff_exists] at member
  obtain ⟨child, named⟩ := member
  have within := wf.created named
  unfold updateEntry
  split
  · next absent =>
      have other : child ≠ network.children.length := by omega
      have kept : (network.addChild entry.1).networkNodes[name]? = some child := by
        simp [addChild, Std.ExtTreeMap.getElem?_insert, ne.symm, named]
      have at_entry : (network.addChild entry.1).networkNodes[entry.1]? =
          some network.children.length := by simp [addChild]
      rw [childAt, networkNodes_setInterface, kept, Option.bind_some, children_setInterface,
        if_neg (by rw [at_entry]; simpa using other.symm)]
      simp [addChild, childAt, named, List.getElem?_append_left within]
  · have apart : network.networkNodes[entry.1]? ≠ some child := fun same =>
      ne (wf.distinct named same)
    rw [childAt, networkNodes_setInterface, named, Option.bind_some, children_setInterface,
      if_neg apart, childAt, named, Option.bind_some]

/-! ## What turns keep and add -/

/-- What any number of turns keeps and adds: names keep their children, children
keep everything but the interface string, and the new children are unsubscribed
children with a subscription callback, one for each new name. -/
structure Extends (before after : InfoDsLinkNodeNetwork) : Prop where
  names : ∀ {name : String} {child : ℕ}, before.networkNodes[name]? = some child →
    after.networkNodes[name]? = some child
  lists : ∀ {name : String}, name ∈ before.networkNodes →
    after.listChildren[name]? = before.listChildren[name]?
  length_le : before.children.length ≤ after.children.length
  old : ∀ {child : ℕ} {c : InfoDsLinkNodeNetworkInterfaces}, before.children[child]? = some c →
    ∃ interface, after.children[child]? = some (c.setInterfaceValue interface)
  new : ∀ {child : ℕ} {c : InfoDsLinkNodeNetworkInterfaces}, after.children[child]? = some c →
    before.children.length ≤ child →
      c = { subsCallback := true, interface := c.interface } ∧
        ∃ name, name ∉ before.networkNodes ∧ after.networkNodes[name]? = some child
  newName : ∀ {name : String}, name ∈ after.networkNodes → name ∉ before.networkNodes →
    ∃ child, before.children.length ≤ child ∧ after.networkNodes[name]? = some child ∧
      after.listChildren[name]? = some child

namespace Extends

theorem refl (network : InfoDsLinkNodeNetwork) : Extends network network where
  names := id
  lists _ := rfl
  length_le := Nat.le_refl _
  old {_ c} found := ⟨c.interface, found⟩
  new {_ _} found beyond := by
    rw [List.getElem?_eq_none beyond] at found
    cases found
  newName present absent := absurd present absent

theorem mem {before after : InfoDsLinkNodeNetwork} (ext : Extends before after) {name : String}
    (member : name ∈ before.networkNodes) : name ∈ after.networkNodes := by
  rw [Std.ExtTreeMap.mem_iff_isSome_getElem?, Option.isSome_iff_exists] at member ⊢
  obtain ⟨child, found⟩ := member
  exact ⟨child, ext.names found⟩

theorem trans {first middle last : InfoDsLinkNodeNetwork} (one : Extends first middle)
    (two : Extends middle last) : Extends first last where
  names found := two.names (one.names found)
  lists member := (two.lists (one.mem member)).trans (one.lists member)
  length_le := Nat.le_trans one.length_le two.length_le
  old found := by
    obtain ⟨interface, found'⟩ := one.old found
    obtain ⟨interface', found''⟩ := two.old found'
    exact ⟨interface', found''⟩
  new {child c} found beyond := by
    rcases Nat.lt_or_ge child middle.children.length with within | further
    · have at_child : middle.children[child]? = some middle.children[child] :=
        List.getElem?_eq_getElem within
      obtain ⟨form, name, absent, named⟩ := one.new at_child beyond
      obtain ⟨interface, found'⟩ := two.old at_child
      rw [found] at found'
      refine ⟨?_, name, absent, two.names named⟩
      rw [Option.some.inj found', form]
      rfl
    · obtain ⟨form, name, absent, named⟩ := two.new found further
      exact ⟨form, name, fun member => absent (one.mem member), named⟩
  newName {name} present absent := by
    by_cases mid : name ∈ middle.networkNodes
    · obtain ⟨child, beyond, named, listed⟩ := one.newName mid absent
      exact ⟨child, beyond, two.names named, (two.lists mid).trans listed⟩
    · obtain ⟨child, beyond, named, listed⟩ := two.newName present mid
      exact ⟨child, Nat.le_trans one.length_le beyond, named, listed⟩

theorem setInterface (network : InfoDsLinkNodeNetwork) (name interface : String) :
    Extends network (network.setInterface name interface) where
  names found := by simpa using found
  lists _ := by simp
  length_le := by simp
  old {child c} found := by
    rw [children_setInterface, found]
    split
    · exact ⟨interface, rfl⟩
    · exact ⟨c.interface, rfl⟩
  new {child c} found beyond := by
    have none_old : network.children[child]? = none := List.getElem?_eq_none beyond
    rw [children_setInterface, none_old] at found
    split at found <;> simp at found
  newName present absent := by
    rw [networkNodes_setInterface] at present
    exact absurd present absent

theorem addChild {network : InfoDsLinkNodeNetwork} {name : String}
    (absent : name ∉ network.networkNodes) : Extends network (network.addChild name) where
  names {n child} found := by
    have ne : name ≠ n := by
      rintro rfl
      exact absent (by simp [Std.ExtTreeMap.mem_iff_isSome_getElem?, found])
    simp [InfoDsLinkNodeNetwork.addChild, Std.ExtTreeMap.getElem?_insert, ne, found]
  lists {n} member := by
    have ne : name ≠ n := fun same => absent (same ▸ member)
    simp [InfoDsLinkNodeNetwork.addChild, Std.ExtTreeMap.getElem?_insert, ne]
  length_le := by simp [InfoDsLinkNodeNetwork.addChild]
  old {child c} found := by
    have within : child < network.children.length := by
      obtain ⟨within, -⟩ := List.getElem?_eq_some_iff.mp found
      exact within
    refine ⟨c.interface, ?_⟩
    simp only [InfoDsLinkNodeNetwork.addChild, List.getElem?_append_left within, found]
    rfl
  new {child c} found beyond := by
    simp only [InfoDsLinkNodeNetwork.addChild, List.getElem?_append_right beyond] at found
    obtain ⟨within, value⟩ := List.getElem?_eq_some_iff.mp found
    have here : child = network.children.length := by
      simp only [List.length_singleton] at within
      omega
    subst here
    refine ⟨by simp [← value], name, absent, by simp [InfoDsLinkNodeNetwork.addChild]⟩
  newName {n} present missing := by
    have same : name = n := by
      simp only [InfoDsLinkNodeNetwork.addChild, Std.ExtTreeMap.mem_insert,
        Std.LawfulEqCmp.compare_eq_iff_eq] at present
      exact present.resolve_right missing
    subst same
    exact ⟨network.children.length, Nat.le_refl _, by simp [InfoDsLinkNodeNetwork.addChild],
      by simp [InfoDsLinkNodeNetwork.addChild]⟩

theorem updateEntry (network : InfoDsLinkNodeNetwork) (entry : String × String) :
    Extends network (network.updateEntry entry) := by
  unfold InfoDsLinkNodeNetwork.updateEntry
  split
  · next absent => exact (addChild (by simpa using absent)).trans (setInterface _ _ _)
  · exact setInterface _ _ _

end Extends

/-! ## What turns leave alone -/

theorem setInterface_frame (network : InfoDsLinkNodeNetwork) (name interface : String) :
    network.setInterface name interface =
      { network with children := (network.setInterface name interface).children } := by
  unfold setInterface
  split <;> rfl

theorem updateEntry_frame (network : InfoDsLinkNodeNetwork) (entry : String × String) :
    network.updateEntry entry = { network with
      networkNodes := (network.updateEntry entry).networkNodes
      listChildren := (network.updateEntry entry).listChildren
      children := (network.updateEntry entry).children } := by
  unfold updateEntry
  split
  · rw [setInterface_frame]
    rfl
  · rw [setInterface_frame]

theorem removeAbsent_frame (network : InfoDsLinkNodeNetwork) (interfaces : InterfaceTable)
    (name : String) :
    network.removeAbsent interfaces name = { network with
      networkNodes := (network.removeAbsent interfaces name).networkNodes
      listChildren := (network.removeAbsent interfaces name).listChildren } := by
  unfold removeAbsent
  split <;> rfl

/-- The loop over the table concerns the children only. -/
theorem foldl_updateEntry_frame (entries : List (String × String))
    (network : InfoDsLinkNodeNetwork) :
    ∃ nodes lists children, entries.foldl updateEntry network =
      { network with networkNodes := nodes, listChildren := lists, children := children } := by
  induction entries generalizing network with
  | nil => exact ⟨_, _, _, rfl⟩
  | cons entry entries ih =>
      obtain ⟨nodes, lists, children, same⟩ := ih (network.updateEntry entry)
      exact ⟨nodes, lists, children, by rw [List.foldl_cons, same, updateEntry_frame]⟩

/-- The removal loop concerns the names only. -/
theorem foldl_removeAbsent_frame (interfaces : InterfaceTable) (names : List String)
    (network : InfoDsLinkNodeNetwork) :
    ∃ nodes lists, names.foldl (removeAbsent · interfaces) network =
      { network with networkNodes := nodes, listChildren := lists } := by
  induction names generalizing network with
  | nil => exact ⟨_, _, rfl⟩
  | cons name names ih =>
      obtain ⟨nodes, lists, same⟩ := ih (network.removeAbsent interfaces name)
      exact ⟨nodes, lists, by rw [List.foldl_cons, same, removeAbsent_frame]⟩

/-! ## The loop over the table -/

/-- The loop over a list of entries keeps the node well formed, adds the names
of the entries and extends the node. -/
theorem foldl_updateEntry (entries : List (String × String)) {network : InfoDsLinkNodeNetwork}
    (wf : network.WellFormed) :
    (entries.foldl updateEntry network).WellFormed ∧
      Extends network (entries.foldl updateEntry network) ∧
        ∀ name, name ∈ (entries.foldl updateEntry network).networkNodes ↔
          name ∈ network.networkNodes ∨ name ∈ entries.map Prod.fst := by
  induction entries generalizing network with
  | nil => exact ⟨wf, Extends.refl network, by simp⟩
  | cons entry entries ih =>
      obtain ⟨wf', ext, names⟩ := ih (wf.updateEntry entry)
      refine ⟨wf', (Extends.updateEntry network entry).trans ext, fun name => ?_⟩
      rw [List.foldl_cons, names, mem_networkNodes_updateEntry, List.map_cons, List.mem_cons,
        or_assoc]

/-- The loop leaves the child of a name that is not among the entries alone. -/
theorem childAt_foldl_of_not_mem (entries : List (String × String))
    {network : InfoDsLinkNodeNetwork} (wf : network.WellFormed) {name : String}
    (member : name ∈ network.networkNodes) (other : name ∉ entries.map Prod.fst) :
    (entries.foldl updateEntry network).childAt name = network.childAt name := by
  induction entries generalizing network with
  | nil => rfl
  | cons entry entries ih =>
      simp only [List.map_cons, List.mem_cons, not_or] at other
      rw [List.foldl_cons, ih (wf.updateEntry entry)
        ((mem_networkNodes_updateEntry entry name).mpr (.inl member)) other.2,
        childAt_updateEntry_of_ne wf entry other.1 member]

/-- The loop over entries with distinct names gives each named child the string
of its entry. -/
theorem childAt_foldl_of_mem (entries : List (String × String))
    {network : InfoDsLinkNodeNetwork} (wf : network.WellFormed)
    (distinct : (entries.map Prod.fst).Nodup) {entry : String × String} (member : entry ∈ entries) :
    ∃ c, (entries.foldl updateEntry network).childAt entry.1 = some c ∧ c.interface = entry.2 := by
  induction entries generalizing network with
  | nil => cases member
  | cons first entries ih =>
      rw [List.map_cons, List.nodup_cons] at distinct
      have wf' := wf.updateEntry first
      rcases List.mem_cons.mp member with rfl | later
      · obtain ⟨c, found, holds⟩ := childAt_updateEntry_self wf entry
        refine ⟨c, ?_, holds⟩
        rw [List.foldl_cons, childAt_foldl_of_not_mem entries wf'
          ((mem_networkNodes_updateEntry entry entry.1).mpr (.inr rfl)) distinct.1, found]
      · exact ih wf' distinct.2 later

theorem nodup_names (interfaces : InterfaceTable) : (interfaces.toList.map Prod.fst).Nodup := by
  rw [Std.ExtTreeMap.map_fst_toList_eq_keys]
  exact Std.ExtTreeMap.nodup_keys

section Updated

variable (interfaces : InterfaceTable)

theorem WellFormed.updateEntries (wf : network.WellFormed) :
    (network.updateEntries interfaces).WellFormed :=
  (foldl_updateEntry interfaces.toList wf).1

theorem extends_updateEntries (wf : network.WellFormed) :
    Extends network (network.updateEntries interfaces) :=
  (foldl_updateEntry interfaces.toList wf).2.1

/-- After the loop the names are the old ones and those of the table. -/
theorem mem_networkNodes_updateEntries (wf : network.WellFormed) (name : String) :
    name ∈ (network.updateEntries interfaces).networkNodes ↔
      name ∈ network.networkNodes ∨ name ∈ interfaces := by
  rw [updateEntries, (foldl_updateEntry interfaces.toList wf).2.2,
    Std.ExtTreeMap.map_fst_toList_eq_keys, Std.ExtTreeMap.mem_keys]

/-- After the loop the child of each name of the table holds the table's string. -/
theorem childAt_updateEntries (wf : network.WellFormed) {name interface : String}
    (inTable : interfaces[name]? = some interface) :
    ∃ c, (network.updateEntries interfaces).childAt name = some c ∧ c.interface = interface :=
  childAt_foldl_of_mem interfaces.toList wf (nodup_names interfaces)
    (Std.ExtTreeMap.mem_toList_iff_getElem?_eq_some.mpr inTable)

end Updated

/-! ## The removal loop -/

/-- The removal loop over a list of names drops those of them that are not in the
table, from the map and from the list children. -/
theorem foldl_removeAbsent (interfaces : InterfaceTable) (names : List String)
    (network : InfoDsLinkNodeNetwork) :
    let removed := names.foldl (removeAbsent · interfaces) network
    (∀ name, removed.networkNodes[name]? =
        if name ∈ names ∧ name ∉ interfaces then none else network.networkNodes[name]?) ∧
      ∀ name, removed.listChildren[name]? =
        if name ∈ names ∧ name ∉ interfaces then none else network.listChildren[name]? := by
  induction names generalizing network with
  | nil => simp
  | cons first names ih =>
      obtain ⟨nodes, lists⟩ := ih (network.removeAbsent interfaces first)
      rw [List.foldl_cons]
      unfold removeAbsent at nodes lists ⊢
      split at nodes
      · next present =>
          rw [if_pos present] at lists ⊢
          refine ⟨fun name => ?_, fun name => ?_⟩
          · rw [nodes name]
            by_cases same : name = first <;> simp [same, present]
          · rw [lists name]
            by_cases same : name = first <;> simp [same, present]
      · next absent =>
          rw [if_neg absent] at lists ⊢
          refine ⟨fun name => ?_, fun name => ?_⟩
          · rw [nodes name]
            by_cases same : name = first
            · simp [same, absent]
            · simp [same, Std.ExtTreeMap.getElem?_erase, Ne.symm same]
          · rw [lists name]
            by_cases same : name = first
            · simp [same, absent]
            · simp [same, Std.ExtTreeMap.getElem?_erase, Ne.symm same]

section Reconcile

variable (interfaces : InterfaceTable)

/-- `reconcile` keeps, of the names after the first loop, those of the table. -/
theorem networkNodes_reconcile (name : String) :
    (network.reconcile interfaces).networkNodes[name]? =
      if name ∈ interfaces then (network.updateEntries interfaces).networkNodes[name]?
      else none := by
  have removed := (foldl_removeAbsent interfaces
    (network.updateEntries interfaces).networkNodes.keys (network.updateEntries interfaces)).1 name
  rw [reconcile, removed]
  by_cases inTable : name ∈ interfaces
  · simp [inTable]
  · simp only [inTable, Std.ExtTreeMap.mem_keys, not_false_eq_true, and_true, if_false]
    split
    · rfl
    · next absent => simpa using absent

theorem listChildren_reconcile (wf : network.WellFormed) (name : String) :
    (network.reconcile interfaces).listChildren[name]? =
      if name ∈ interfaces then (network.updateEntries interfaces).listChildren[name]?
      else none := by
  have removed := (foldl_removeAbsent interfaces
    (network.updateEntries interfaces).networkNodes.keys (network.updateEntries interfaces)).2 name
  rw [reconcile, removed]
  by_cases inTable : name ∈ interfaces
  · simp [inTable]
  · simp only [inTable, Std.ExtTreeMap.mem_keys, not_false_eq_true, and_true, if_false]
    split
    · rfl
    · next absent =>
        rw [(wf.updateEntries interfaces).listed] at absent
        simpa using absent

theorem children_reconcile :
    (network.reconcile interfaces).children = (network.updateEntries interfaces).children := by
  obtain ⟨nodes, lists, removed⟩ := foldl_removeAbsent_frame interfaces
    (network.updateEntries interfaces).networkNodes.keys (network.updateEntries interfaces)
  rw [reconcile, removed]

theorem mem_networkNodes_reconcile (wf : network.WellFormed) (name : String) :
    name ∈ (network.reconcile interfaces).networkNodes ↔ name ∈ interfaces := by
  rw [Std.ExtTreeMap.mem_iff_isSome_getElem?, networkNodes_reconcile interfaces]
  split
  · next inTable =>
      rw [← Std.ExtTreeMap.mem_iff_isSome_getElem?, mem_networkNodes_updateEntries interfaces wf]
      simp [inTable]
  · next absent => simp [absent]

theorem mem_listChildren_reconcile (wf : network.WellFormed) (name : String) :
    name ∈ (network.reconcile interfaces).listChildren ↔ name ∈ interfaces := by
  rw [Std.ExtTreeMap.mem_iff_isSome_getElem?, listChildren_reconcile interfaces wf]
  split
  · next inTable =>
      rw [← Std.ExtTreeMap.mem_iff_isSome_getElem?, ← (wf.updateEntries interfaces).listed,
        mem_networkNodes_updateEntries interfaces wf]
      simp [inTable]
  · next absent => simp [absent]

theorem childAt_reconcile {name : String} (inTable : name ∈ interfaces) :
    (network.reconcile interfaces).childAt name =
      (network.updateEntries interfaces).childAt name := by
  rw [childAt, networkNodes_reconcile interfaces, if_pos inTable, children_reconcile, childAt]

theorem WellFormed.reconcile (wf : network.WellFormed) :
    (network.reconcile interfaces).WellFormed where
  created {name child} found := by
    rw [networkNodes_reconcile interfaces] at found
    split at found
    · rw [children_reconcile]
      exact (wf.updateEntries interfaces).created found
    · cases found
  distinct {name other child} first second := by
    rw [networkNodes_reconcile interfaces] at first second
    split at first <;> split at second
    · exact (wf.updateEntries interfaces).distinct first second
    all_goals first | cases first | cases second
  listed name := by
    rw [mem_networkNodes_reconcile interfaces wf, mem_listChildren_reconcile interfaces wf]

end Reconcile

/-! ## What reconciling leaves alone -/

/-- Reconciling concerns the children only. -/
theorem reconcile_frame (network : InfoDsLinkNodeNetwork) (interfaces : InterfaceTable) :
    network.reconcile interfaces = { network with
      networkNodes := (network.reconcile interfaces).networkNodes
      listChildren := (network.reconcile interfaces).listChildren
      children := (network.reconcile interfaces).children } := by
  obtain ⟨nodes, lists, children, updated⟩ := foldl_updateEntry_frame interfaces.toList network
  obtain ⟨nodes', lists', removed⟩ := foldl_removeAbsent_frame interfaces
    (network.updateEntries interfaces).networkNodes.keys (network.updateEntries interfaces)
  rw [reconcile, removed, updateEntries, updated]

@[simp] theorem subscribeState_reconcile (interfaces : InterfaceTable) :
    (network.reconcile interfaces).subscribeState = network.subscribeState := by
  rw [reconcile_frame]

@[simp] theorem networkTimer_reconcile (interfaces : InterfaceTable) :
    (network.reconcile interfaces).networkTimer = network.networkTimer := by
  rw [reconcile_frame]

@[simp] theorem subsCallback_reconcile (interfaces : InterfaceTable) :
    (network.reconcile interfaces).subsCallback = network.subsCallback := by
  rw [reconcile_frame]

@[simp] theorem subscribeState_handleValue (interfaces : InterfaceTable) :
    (network.handleValue interfaces).subscribeState = network.subscribeState := by
  unfold handleValue
  split <;> simp

@[simp] theorem subsCallback_handleValue (interfaces : InterfaceTable) :
    (network.handleValue interfaces).subsCallback = network.subsCallback := by
  unfold handleValue
  split <;> simp

/-! ## The outcome of `update_value` -/

/-- What `update_value` is for: one child for each name of the table, holding the
table's string. A child whose name was there before is the same object with the
same subscription flag. Each new name has a new, unsubscribed child with a
subscription callback, and each new child has one name. -/
structure Reconciled (before after : InfoDsLinkNodeNetwork) (interfaces : InterfaceTable) :
    Prop where
  names : ∀ name, name ∈ after.networkNodes ↔ name ∈ interfaces
  listed : ∀ name, name ∈ after.listChildren ↔ name ∈ interfaces
  holds : ∀ {name interface : String}, interfaces[name]? = some interface →
    ∃ c, after.childAt name = some c ∧ c.interface = interface
  same : ∀ {name : String} {child : ℕ} {c : InfoDsLinkNodeNetworkInterfaces},
    name ∈ interfaces → before.networkNodes[name]? = some child →
      before.children[child]? = some c →
        after.networkNodes[name]? = some child ∧
          after.listChildren[name]? = before.listChildren[name]? ∧
            ∃ c', after.children[child]? = some c' ∧ c'.subscribeState = c.subscribeState
  new : ∀ {name : String}, name ∈ interfaces → name ∉ before.networkNodes →
    ∃ child c, before.children.length ≤ child ∧ after.networkNodes[name]? = some child ∧
      after.listChildren[name]? = some child ∧ after.children[child]? = some c ∧
        c.subscribeState = false ∧ c.subsCallback = true
  once : ∀ {child : ℕ}, before.children.length ≤ child → child < after.children.length →
    ∃! name : String, after.networkNodes[name]? = some child

/-- **`reconcile` does what `update_value` is for.** -/
theorem reconcile_reconciled (wf : network.WellFormed) (interfaces : InterfaceTable) :
    Reconciled network (network.reconcile interfaces) interfaces := by
  have ext := extends_updateEntries interfaces wf
  have wf' := wf.reconcile interfaces
  have kept : ∀ {name : String}, name ∈ interfaces →
      (network.reconcile interfaces).networkNodes[name]? =
          (network.updateEntries interfaces).networkNodes[name]? ∧
        (network.reconcile interfaces).listChildren[name]? =
          (network.updateEntries interfaces).listChildren[name]? := by
    intro name inTable
    rw [networkNodes_reconcile, listChildren_reconcile interfaces wf, if_pos inTable,
      if_pos inTable]
    exact ⟨rfl, rfl⟩
  refine ⟨mem_networkNodes_reconcile interfaces wf, mem_listChildren_reconcile interfaces wf,
    ?_, ?_, ?_, ?_⟩
  · intro name interface inTable
    have member : name ∈ interfaces := by
      simp [Std.ExtTreeMap.mem_iff_isSome_getElem?, inTable]
    rw [childAt_reconcile interfaces member]
    exact childAt_updateEntries interfaces wf inTable
  · intro name child c inTable named at_child
    have member : name ∈ network.networkNodes := by
      simp [Std.ExtTreeMap.mem_iff_isSome_getElem?, named]
    obtain ⟨interface, at_child'⟩ := ext.old at_child
    refine ⟨(kept inTable).1.trans (ext.names named), (kept inTable).2.trans (ext.lists member),
      c.setInterfaceValue interface, ?_, rfl⟩
    rw [children_reconcile, at_child']
  · intro name inTable absent
    obtain ⟨child, beyond, named, listed⟩ := ext.newName
      ((mem_networkNodes_updateEntries interfaces wf name).mpr (.inr inTable)) absent
    have within := (wf.updateEntries interfaces).created named
    have at_child := List.getElem?_eq_getElem within
    have form := (ext.new at_child beyond).1
    refine ⟨child, (network.updateEntries interfaces).children[child], beyond,
      (kept inTable).1.trans named, (kept inTable).2.trans listed, ?_, ?_, ?_⟩
    · rw [children_reconcile, at_child]
    · rw [form]
    · rw [form]
  · intro child beyond within
    rw [children_reconcile] at within
    obtain ⟨-, name, absent, named⟩ := ext.new (List.getElem?_eq_getElem within) beyond
    have inTable : name ∈ interfaces := by
      have present : name ∈ (network.updateEntries interfaces).networkNodes := by
        simp [Std.ExtTreeMap.mem_iff_isSome_getElem?, named]
      exact ((mem_networkNodes_updateEntries interfaces wf name).mp present).resolve_left absent
    have named' := (kept inTable).1.trans named
    exact ⟨name, named', fun other named'' => wf'.distinct named'' named'⟩

section RemovalLoop

variable (interfaces : InterfaceTable)

/-- A turn of the removal loop at a name of the table erases nothing. -/
theorem removeAbsent_keeps (network : InfoDsLinkNodeNetwork) (name : String)
    (inTable : decide (name ∈ interfaces) = true) :
    (network.removeAbsent interfaces name).networkNodes = network.networkNodes := by
  rw [removeAbsent, if_pos (of_decide_eq_true inTable)]

/-- A turn of the removal loop at any other name erases it. -/
theorem removeAbsent_erases (network : InfoDsLinkNodeNetwork) (name : String)
    (vanished : decide (name ∈ interfaces) = false) :
    name ∉ (network.removeAbsent interfaces name).networkNodes := by
  rw [removeAbsent, if_neg (of_decide_eq_false vanished)]
  simp

/-- When `update_value` comes to its end, its outcome is the one meant. -/
theorem updateValue_eq_reconcile {after : InfoDsLinkNodeNetwork}
    (finished : network.updateValue interfaces = .finished after) :
    after = network.reconcile interfaces :=
  walk_eq_finished (removeAbsent_keeps interfaces) (removeAbsent_erases interfaces) finished

/-- `update_value` comes to its end exactly when no name vanishes. -/
theorem updateValue_finishes_iff (wf : network.WellFormed) :
    (∃ after, network.updateValue interfaces = .finished after) ↔
      ∀ name ∈ network.networkNodes, name ∈ interfaces := by
  rw [updateValue, walk_finishes_iff (removeAbsent_keeps interfaces)
    (removeAbsent_erases interfaces)]
  simp only [decide_eq_true_eq, mem_networkNodes_updateEntries interfaces wf]
  exact ⟨fun all name old => all name (.inl old),
    fun all name present => present.elim (all name) id⟩

end RemovalLoop

/-- **The reconciliation law holds exactly when no interface vanishes.** The
removal loop comes to its end, with the outcome meant, if and only if every name
that has a child is in the table. -/
theorem updateValue_reconciles_iff (network : InfoDsLinkNodeNetwork) (wf : network.WellFormed)
    (interfaces : InterfaceTable) :
    (∃ after, network.updateValue interfaces = .finished after ∧
      Reconciled network after interfaces) ↔
        ∀ name ∈ network.networkNodes, name ∈ interfaces := by
  rw [← updateValue_finishes_iff interfaces wf]
  constructor
  · rintro ⟨after, finished, -⟩
    exact ⟨after, finished⟩
  · rintro ⟨after, finished⟩
    refine ⟨after, finished, ?_⟩
    rw [updateValue_eq_reconcile interfaces finished]
    exact reconcile_reconciled wf interfaces

/-- The node with children for two interfaces. -/
def ethAndLo : InfoDsLinkNodeNetwork :=
  reconcile {} (((∅ : InterfaceTable).insert "eth0" "10.0.0.5 ").insert "lo" "127.0.0.1 ")

theorem wellFormed_ethAndLo : ethAndLo.WellFormed := wellFormed_new.reconcile _

/-- The law at a table that has both interfaces, one with a new address. -/
theorem updateValue_reconciles_ethAndLo :
    (∃ after, ethAndLo.updateValue
        (((∅ : InterfaceTable).insert "eth0" "10.0.0.9 ").insert "lo" "127.0.0.1 ") =
          .finished after ∧
      Reconciled ethAndLo after
        (((∅ : InterfaceTable).insert "eth0" "10.0.0.9 ").insert "lo" "127.0.0.1 ")) ↔
        ∀ name ∈ ethAndLo.networkNodes,
          name ∈ ((∅ : InterfaceTable).insert "eth0" "10.0.0.9 ").insert "lo" "127.0.0.1 " :=
  updateValue_reconciles_iff ethAndLo wellFormed_ethAndLo _

/-- When `lo` vanishes the removal loop advances an iterator whose element it
erased: `update_value` does not come to its end. -/
theorem updateValue_vanished_name :
    ethAndLo.WellFormed ∧
      ¬ ∃ after, ethAndLo.updateValue ((∅ : InterfaceTable).insert "eth0" "10.0.0.5 ") =
        .finished after := by
  refine ⟨wellFormed_ethAndLo, ?_⟩
  rw [updateValue_finishes_iff _ wellFormed_ethAndLo]
  intro all
  have lo := all "lo" (by decide)
  revert lo
  decide

end InfoDsLinkNodeNetwork

end DslinkSystem
