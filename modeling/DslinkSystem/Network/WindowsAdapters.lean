import DslinkSystem.Library.Holdings
import DslinkSystem.Network.HostUpdates

/-!
# The adapters of Windows as children of `Network_Interfaces`

`get_network_interfaces` of Windows calls `GetAdaptersInfo` twice: with a buffer for one
adapter, and, when that is too small, once more with a buffer of the length it was told.
What `GetAdaptersInfo` returns is given, for each host, buffer and length, and nothing is
assumed of it. The first buffer is freed without asking whether there was memory for it, and
`HeapFree` of a null pointer is undefined: the call has no result then.

* A call fails exactly when it frees a null pointer. Otherwise it gives back all the memory it
  takes, and its table has the adapters that the second call lists, under their indexes
  (`getNetworkInterfaces_lists`).
* The node goes on exactly as long as no update frees a null pointer and no index vanishes from
  one update to the next (`adapters_served_iff`); a second call that lists nothing makes all of
  them vanish.
-/

set_option autoImplicit false

namespace DslinkSystem

open EventRuns TimerSlots MapCursor TextScan Holdings

namespace Windows

/-- `IP_ADAPTER_INFO`, as far as the getter reads it. -/
structure Adapter where
  index : UInt32
  description : String
  ipAddress : String
  deriving DecidableEq, Repr

/-- What `GetAdaptersInfo` returns: `NO_ERROR` with the record that the buffer begins with and
those that it links to, `ERROR_BUFFER_OVERFLOW`, or another error. -/
inductive AdaptersResult where
  | noError (first : Adapter) (others : List Adapter)
  | bufferOverflow
  | otherError
  deriving DecidableEq, Repr

/-- The blocks of memory that the getter allocates, with their sizes. -/
inductive HeapBlock where
  | initial (size : UInt32)
  | enlarged (size : UInt32)
  deriving DecidableEq, Repr

/-- `GetAdaptersInfo(pAdapterInfo, &ulOutBufLen)` on a host: what it returns, and the length
that it leaves in the variable. -/
abbrev GetAdaptersInfo (Host : Type) := Host → Option HeapBlock → UInt32 → AdaptersResult × UInt32

/-- What happens in one call of the getter: whether each allocation succeeds, and the host as
each call of `GetAdaptersInfo` finds it. -/
structure AdaptersAnswer (Host : Type) where
  initialAllocated : Bool
  enlargedAllocated : Bool
  first : Host
  second : Host

/-! ## The getter -/

/-- `MALLOC`. -/
def malloc (block : HeapBlock) (allocated : Bool) : Holding HeapBlock (Option HeapBlock) := do
  if allocated then
    acquire block
    return some block
  return none

/-- `FREE`. There is no result for a null pointer: `HeapFree` leaves that undefined. -/
def free : Option HeapBlock → Holding HeapBlock Unit
  | none => failure
  | some block => release block

namespace Adapter

/-- `to_string(pAdapter->Index)`. -/
def nameOf (index : UInt32) : String := String.ofList (decimal index.toNat)

def name (adapter : Adapter) : String := nameOf adapter.index

/-- The description and the address, with a colon between them. -/
def text (adapter : Adapter) : String := adapter.description ++ ":" ++ adapter.ipAddress

end Adapter

/-- The walk over the list in the buffer. -/
def collectAdapters (interfaces : InterfaceTable) (list : List Adapter) : InterfaceTable :=
  list.foldl (fun interfaces pAdapter => interfaces.insert pAdapter.name pAdapter.text) interfaces

section Getter

variable {Host : Type} (getAdaptersInfo : GetAdaptersInfo Host) (sizeofAdapterInfo : UInt32)

/-- A buffer of the length that was asked for, in place of the one that was too small. -/
def enlargeBuffer (pAdapterInfo : Option HeapBlock) (allocated : Bool) (ulOutBufLen : UInt32) :
    Holding HeapBlock (Option HeapBlock) := do
  free pAdapterInfo
  malloc (.enlarged ulOutBufLen) allocated

/-- The first call, and a larger buffer where that is too small. -/
def allocateBuffer (answer : AdaptersAnswer Host) :
    Holding HeapBlock (Option HeapBlock × UInt32) := do
  let pAdapterInfo ← malloc (.initial sizeofAdapterInfo) answer.initialAllocated
  let (result, ulOutBufLen) := getAdaptersInfo answer.first pAdapterInfo sizeofAdapterInfo
  match result with
  | .bufferOverflow =>
      let pAdapterInfo ← enlargeBuffer pAdapterInfo answer.enlargedAllocated ulOutBufLen
      return (pAdapterInfo, ulOutBufLen)
  | .noError _ _ | .otherError => return (pAdapterInfo, ulOutBufLen)

/-- The second call, and the walk over the list it leaves in the buffer. Without a buffer the
walk is over at once. -/
def readAdapters (host : Host) (pAdapterInfo : Option HeapBlock) (ulOutBufLen : UInt32) :
    Holding HeapBlock InterfaceTable := do
  match (getAdaptersInfo host pAdapterInfo ulOutBufLen).1 with
  | .noError first others =>
      match pAdapterInfo with
      | none => return ∅
      | some block =>
          use block
          return collectAdapters ∅ (first :: others)
  | .bufferOverflow | .otherError => return ∅

/-- `info::system::get_network_interfaces()`. -/
def getNetworkInterfaces (answer : AdaptersAnswer Host) : Holding HeapBlock InterfaceTable := do
  let buffer ← allocateBuffer getAdaptersInfo sizeofAdapterInfo answer
  let interfaces ← readAdapters getAdaptersInfo answer.second buffer.1 buffer.2
  if buffer.1.isSome then
    free buffer.1
  return interfaces

end Getter

/-! ## The table of a call -/

namespace AdaptersAnswer

variable {Host : Type} (getAdaptersInfo : GetAdaptersInfo Host) (sizeofAdapterInfo : UInt32)

/-- There is no memory for the first buffer, and the first call asks for a larger one. -/
def FreesNull (answer : AdaptersAnswer Host) : Prop :=
  answer.initialAllocated = false ∧
    (getAdaptersInfo answer.first none sizeofAdapterInfo).1 = .bufferOverflow

instance (answer : AdaptersAnswer Host) :
    Decidable (answer.FreesNull getAdaptersInfo sizeofAdapterInfo) :=
  inferInstanceAs (Decidable (_ ∧ _))

/-- The buffer that the second call is given, if any, and its length. -/
def buffer (answer : AdaptersAnswer Host) : Option HeapBlock × UInt32 :=
  let pAdapterInfo := if answer.initialAllocated then some (.initial sizeofAdapterInfo) else none
  let (result, ulOutBufLen) := getAdaptersInfo answer.first pAdapterInfo sizeofAdapterInfo
  match result with
  | .bufferOverflow =>
      (if answer.enlargedAllocated then some (.enlarged ulOutBufLen) else none, ulOutBufLen)
  | .noError _ _ | .otherError => (pAdapterInfo, ulOutBufLen)

/-- The adapters that a call of `GetAdaptersInfo` puts into a buffer, if there is one. -/
def found (host : Host) (pAdapterInfo : Option HeapBlock) (ulOutBufLen : UInt32) : List Adapter :=
  match (getAdaptersInfo host pAdapterInfo ulOutBufLen).1 with
  | .noError first others => if pAdapterInfo.isSome then first :: others else []
  | .bufferOverflow | .otherError => []

/-- The adapters of a call of the getter: those that the second call puts into its buffer. -/
def listed (answer : AdaptersAnswer Host) : List Adapter :=
  if answer.FreesNull getAdaptersInfo sizeofAdapterInfo then []
  else
    found getAdaptersInfo answer.second (answer.buffer getAdaptersInfo sizeofAdapterInfo).1
      (answer.buffer getAdaptersInfo sizeofAdapterInfo).2

end AdaptersAnswer

section Calls

variable {Host : Type} {getAdaptersInfo : GetAdaptersInfo Host} {sizeofAdapterInfo : UInt32}
  {answer : AdaptersAnswer Host}

/-- The references that stand for a buffer. -/
def blockHeld : Option HeapBlock → Multiset HeapBlock
  | none => 0
  | some block => block ::ₘ 0

theorem triple_malloc (block : HeapBlock) (allocated : Bool) :
    Triple 0 (malloc block allocated) (some (if allocated then some block else none))
      (blockHeld (if allocated then some block else none)) := by
  cases allocated with
  | false => exact triple_pure _
  | true => exact (triple_acquire block).after_step (triple_pure _)

theorem triple_free (block : HeapBlock) :
    Triple (blockHeld (some block)) (free (some block)) (some ()) 0 := by
  have released := triple_release (Multiset.mem_cons_self block 0)
  rwa [Multiset.erase_cons_head] at released

theorem triple_enlargeBuffer (block : HeapBlock) (allocated : Bool) (length : UInt32) :
    Triple (blockHeld (some block)) (enlargeBuffer (some block) allocated length)
      (some (if allocated then some (.enlarged length) else none))
      (blockHeld (if allocated then some (.enlarged length) else none)) := by
  rw [enlargeBuffer]
  exact (triple_free block).after_step (triple_malloc _ allocated)

/-- **The first call leaves one block at most**, if it does not free a null pointer. -/
theorem triple_allocateBuffer (proper : ¬ answer.FreesNull getAdaptersInfo sizeofAdapterInfo) :
    Triple 0 (allocateBuffer getAdaptersInfo sizeofAdapterInfo answer)
      (some (answer.buffer getAdaptersInfo sizeofAdapterInfo))
      (blockHeld (answer.buffer getAdaptersInfo sizeofAdapterInfo).1) := by
  rw [allocateBuffer, AdaptersAnswer.buffer]
  refine (triple_malloc _ answer.initialAllocated).after_step ?_
  cases allocated : answer.initialAllocated with
  | false =>
      have larger : (getAdaptersInfo answer.first none sizeofAdapterInfo).1 ≠ .bufferOverflow :=
        fun overflow => proper ⟨allocated, overflow⟩
      simp only [Bool.false_eq_true, if_false]
      cases result : (getAdaptersInfo answer.first none sizeofAdapterInfo).1 with
      | bufferOverflow => exact absurd result larger
      | noError first others => exact triple_pure _
      | otherError => exact triple_pure _
  | true =>
      simp only [if_true]
      cases (getAdaptersInfo answer.first (some (.initial sizeofAdapterInfo)) sizeofAdapterInfo).1
        with
      | bufferOverflow => exact (triple_enlargeBuffer _ _ _).after_step (triple_pure _)
      | noError first others => exact triple_pure _
      | otherError => exact triple_pure _

/-- Freeing a null pointer has no result. -/
theorem triple_allocateBuffer_null (null : answer.FreesNull getAdaptersInfo sizeofAdapterInfo) :
    Triple 0 (allocateBuffer getAdaptersInfo sizeofAdapterInfo answer) none 0 := by
  obtain ⟨notAllocated, overflow⟩ := null
  rw [allocateBuffer, notAllocated]
  refine (triple_malloc _ false).after_step ?_
  simp only [Bool.false_eq_true, if_false, overflow]
  exact triple_failure.fails.fails

/-- The second call and the walk leave the buffer as it is. -/
theorem triple_readAdapters (host : Host) (pAdapterInfo : Option HeapBlock)
    (ulOutBufLen : UInt32) :
    Triple (blockHeld pAdapterInfo) (readAdapters getAdaptersInfo host pAdapterInfo ulOutBufLen)
      (some (collectAdapters ∅
        (AdaptersAnswer.found getAdaptersInfo host pAdapterInfo ulOutBufLen)))
      (blockHeld pAdapterInfo) := by
  rw [readAdapters, AdaptersAnswer.found]
  cases (getAdaptersInfo host pAdapterInfo ulOutBufLen).1 with
  | bufferOverflow => exact triple_pure _
  | otherError => exact triple_pure _
  | noError first others =>
      cases pAdapterInfo with
      | none => exact triple_pure _
      | some block =>
          exact (triple_use (Multiset.mem_cons_self block 0)).after_step (triple_pure _)

/-- The buffer is freed where there is one. -/
theorem triple_freeBuffer (pAdapterInfo : Option HeapBlock) (interfaces : InterfaceTable) :
    Triple (blockHeld pAdapterInfo)
      (do
        if pAdapterInfo.isSome then
          free pAdapterInfo
        return interfaces)
      (some interfaces) 0 := by
  cases pAdapterInfo with
  | none => exact triple_pure _
  | some block => exact (triple_free block).after_step (triple_pure _)

/-- **A call gives back all the memory it takes**, and returns the table of the adapters it
lists, unless it frees a null pointer. -/
theorem triple_getNetworkInterfaces (answer : AdaptersAnswer Host) :
    Triple 0 (getNetworkInterfaces getAdaptersInfo sizeofAdapterInfo answer)
      (if answer.FreesNull getAdaptersInfo sizeofAdapterInfo then none
        else some (collectAdapters ∅ (answer.listed getAdaptersInfo sizeofAdapterInfo))) 0 := by
  rw [getNetworkInterfaces]
  by_cases null : answer.FreesNull getAdaptersInfo sizeofAdapterInfo
  · rw [if_pos null]
    exact (triple_allocateBuffer_null null).fails
  · rw [if_neg null, AdaptersAnswer.listed, if_neg null]
    refine (triple_allocateBuffer null).after_step ?_
    exact (triple_readAdapters _ _ _).after_step (triple_freeBuffer _ _)

end Calls

/-! ## The table lists the adapters -/

/-- The table has the adapters of a list: their indexes are its names, and for each of them
it has the text of the last adapter with that index. -/
structure ListsAdapters (list : List Adapter) (interfaces : InterfaceTable) : Prop where
  names : ∀ name, name ∈ interfaces ↔ ∃ adapter ∈ list, adapter.name = name
  texts : ∀ index, interfaces[Adapter.nameOf index]? =
    (list.reverse.find? (·.index = index)).map Adapter.text

theorem nameOf_injective {index other : UInt32}
    (same : Adapter.nameOf index = Adapter.nameOf other) : index = other := by
  have digits : decimal index.toNat = decimal other.toNat := String.ofList_injective same
  exact UInt32.toNat_inj.mp (decimal_injective digits)

theorem name_eq_nameOf_iff {adapter : Adapter} {index : UInt32} :
    adapter.name = Adapter.nameOf index ↔ adapter.index = index :=
  ⟨nameOf_injective, congrArg Adapter.nameOf⟩

/-- **The walk lists the adapters**: the last one with a name gives its text, and what has no
adapter stays as it was. -/
theorem getElem?_collectAdapters (list : List Adapter) (interfaces : InterfaceTable)
    (name : String) :
    (collectAdapters interfaces list)[name]? =
      ((list.reverse.find? (·.name = name)).map Adapter.text).or interfaces[name]? := by
  induction list generalizing interfaces with
  | nil => rfl
  | cons adapter list ih =>
      have step := ih (interfaces.insert adapter.name adapter.text)
      rw [List.reverse_cons, List.find?_append, Option.map_or, Option.or_assoc]
      refine step.trans (congrArg _ ?_)
      rw [Std.ExtTreeMap.getElem?_insert]
      by_cases same : adapter.name = name
      · simp [same]
      · simp [same]

theorem listsAdapters_collectAdapters (list : List Adapter) :
    ListsAdapters list (collectAdapters ∅ list) where
  names name := by
    rw [Std.ExtTreeMap.mem_iff_isSome_getElem?, getElem?_collectAdapters]
    simp
  texts index := by
    rw [getElem?_collectAdapters, Std.ExtTreeMap.getElem?_empty, Option.or_none]
    simp only [name_eq_nameOf_iff]

/-- **The adapters of a call.** Whatever `GetAdaptersInfo` returns, and whatever memory the
process holds: a call has no result exactly when it frees a null pointer; otherwise it holds no
memory that it did not hold before, and its table has the adapters that the second call of
`GetAdaptersInfo` puts into the buffer that the first one led to. -/
theorem getNetworkInterfaces_lists {Host : Type} (getAdaptersInfo : GetAdaptersInfo Host)
    (sizeofAdapterInfo : UInt32) (answer : AdaptersAnswer Host) (held : Multiset HeapBlock) :
    (getNetworkInterfaces getAdaptersInfo sizeofAdapterInfo answer held = none ↔
      answer.FreesNull getAdaptersInfo sizeofAdapterInfo) ∧
    ∀ interfaces left,
      getNetworkInterfaces getAdaptersInfo sizeofAdapterInfo answer held = some (interfaces, left) →
        left = held ∧
          ListsAdapters (answer.listed getAdaptersInfo sizeofAdapterInfo) interfaces := by
  rw [(triple_getNetworkInterfaces answer).run_eq held]
  by_cases null : answer.FreesNull getAdaptersInfo sizeofAdapterInfo
  · rw [if_pos null]
    exact ⟨iff_of_true rfl null, fun interfaces left result => by cases result⟩
  · rw [if_neg null]
    refine ⟨iff_of_false (by simp) null, fun interfaces left result => ?_⟩
    obtain ⟨rfl, rfl⟩ := Prod.mk.inj (Option.some.inj result)
    exact ⟨rfl, listsAdapters_collectAdapters _⟩

/-! ## The node -/

section Node

open InfoDsLinkNodeNetwork

variable {Host : Type} (getAdaptersInfo : GetAdaptersInfo Host) (sizeofAdapterInfo : UInt32)

/-- The table that an update is given. -/
def adaptersTable (answer : AdaptersAnswer Host) : Option InterfaceTable :=
  (getNetworkInterfaces getAdaptersInfo sizeofAdapterInfo answer 0).map Prod.fst

/-- The adapters in force after an event. -/
def recordAdapters (list : List Adapter) : HostEvent (AdaptersAnswer Host) → List Adapter
  | .updateValue answer => answer.listed getAdaptersInfo sizeofAdapterInfo
  | _ => list

/-- The adapters of the latest update. -/
def latestAdapters (events : List (HostEvent (AdaptersAnswer Host))) : List Adapter :=
  events.foldl (recordAdapters getAdaptersInfo sizeofAdapterInfo) []

/-- No update frees a null pointer, and no index of an adapter vanishes from one update to the
next. -/
def IndexesStay : List Adapter → List (HostEvent (AdaptersAnswer Host)) → Prop
  | _, [] => True
  | list, .updateValue answer :: events =>
      ¬ answer.FreesNull getAdaptersInfo sizeofAdapterInfo ∧
        (∀ adapter ∈ list, ∃ other ∈ answer.listed getAdaptersInfo sizeofAdapterInfo,
          other.index = adapter.index) ∧
        IndexesStay (answer.listed getAdaptersInfo sizeofAdapterInfo) events
  | list, _ :: events => IndexesStay list events

/-- The children are those of a list of adapters: one for each index, served from a table that
has the text of the last adapter with that index. -/
structure ServedAdapters (list : List Adapter) (network : InfoDsLinkNodeNetwork) : Prop where
  names : ∀ name, name ∈ network.networkNodes ↔ ∃ adapter ∈ list, adapter.name = name
  served : ∃ table, Served table network ∧ ∀ index, table[Adapter.nameOf index]? =
    (list.reverse.find? (·.index = index)).map Adapter.text

variable {getAdaptersInfo sizeofAdapterInfo}

theorem adaptersTable_eq (answer : AdaptersAnswer Host) :
    adaptersTable getAdaptersInfo sizeofAdapterInfo answer =
      if answer.FreesNull getAdaptersInfo sizeofAdapterInfo then none
      else some (collectAdapters ∅ (answer.listed getAdaptersInfo sizeofAdapterInfo)) := by
  rw [adaptersTable, (triple_getNetworkInterfaces answer).run_eq]
  split <;> rfl

/-- The names of a table stay exactly when the indexes do. -/
theorem keepsNames_collectAdapters_iff {list list' : List Adapter} :
    keepsNames (collectAdapters ∅ list) (collectAdapters ∅ list') ↔
      ∀ adapter ∈ list, ∃ other ∈ list', other.index = adapter.index := by
  have names := (listsAdapters_collectAdapters list).names
  have names' := (listsAdapters_collectAdapters list').names
  constructor
  · intro keeps adapter member
    obtain ⟨other, member', same⟩ :=
      (names' adapter.name).mp (keeps _ ((names _).mpr ⟨adapter, member, rfl⟩))
    exact ⟨other, member', nameOf_injective same⟩
  · intro indexes name there
    obtain ⟨adapter, member, rfl⟩ := (names name).mp there
    obtain ⟨other, member', same⟩ := indexes adapter member
    exact (names' _).mpr ⟨other, member', congrArg Adapter.nameOf same⟩

theorem tablesStay_iff_indexesStay (list : List Adapter)
    (events : List (HostEvent (AdaptersAnswer Host))) :
    TablesStay (adaptersTable getAdaptersInfo sizeofAdapterInfo) (collectAdapters ∅ list) events ↔
      IndexesStay getAdaptersInfo sizeofAdapterInfo list events := by
  induction events generalizing list with
  | nil => exact Iff.rfl
  | cons event events ih =>
      cases event with
      | subscribeChild child => exact ih list
      | unsubscribeChild child => exact ih list
      | tick t => exact ih list
      | updateValue answer =>
          rw [TablesStay, IndexesStay, adaptersTable_eq, ← ih, ← keepsNames_collectAdapters_iff]
          by_cases null : answer.FreesNull getAdaptersInfo sizeofAdapterInfo
          · simp [null]
          · simp [null]

/-- The latest table is that of the latest adapters. -/
theorem foldl_recordAnswer_adapters (list : List Adapter)
    (events : List (HostEvent (AdaptersAnswer Host))) :
    events.foldl (recordAnswer (adaptersTable getAdaptersInfo sizeofAdapterInfo))
        (collectAdapters ∅ list) =
      collectAdapters ∅ (events.foldl (recordAdapters getAdaptersInfo sizeofAdapterInfo) list) := by
  induction events generalizing list with
  | nil => rfl
  | cons event events ih =>
      cases event with
      | subscribeChild child => exact ih list
      | unsubscribeChild child => exact ih list
      | tick t => exact ih list
      | updateValue answer =>
          have table : (adaptersTable getAdaptersInfo sizeofAdapterInfo answer).getD ∅ =
              collectAdapters ∅ (answer.listed getAdaptersInfo sizeofAdapterInfo) := by
            rw [adaptersTable_eq]
            by_cases null : answer.FreesNull getAdaptersInfo sizeofAdapterInfo
            · rw [if_pos null, AdaptersAnswer.listed, if_pos null]
              rfl
            · rw [if_neg null]
              rfl
          rw [List.foldl_cons, List.foldl_cons, recordAnswer, table]
          exact ih (answer.listed getAdaptersInfo sizeofAdapterInfo)

/-- **The adapters are served as long as no index vanishes.** Whatever `GetAdaptersInfo`
returns, and however subscriptions and ticks fall between the updates: the node goes on exactly as
long as no update frees a null pointer and every index of one update is among those of the next;
and in every state it reaches, its children are those of the adapters of the latest update and are
served their descriptions and addresses. -/
theorem adapters_served_iff {Host : Type} (getAdaptersInfo : GetAdaptersInfo Host)
    (sizeofAdapterInfo : UInt32) (events : List (HostEvent (AdaptersAnswer Host))) :
    ((∃ network, run (hostMachine (adaptersTable getAdaptersInfo sizeofAdapterInfo)) {} events =
        some network) ↔
      IndexesStay getAdaptersInfo sizeofAdapterInfo [] events) ∧
    ∀ network, run (hostMachine (adaptersTable getAdaptersInfo sizeofAdapterInfo)) {} events =
        some network →
      ServedAdapters (latestAdapters getAdaptersInfo sizeofAdapterInfo events) network := by
  obtain ⟨goes_on, current⟩ :=
    @run_hostMachine _ (adaptersTable getAdaptersInfo sizeofAdapterInfo) events
  refine ⟨goes_on.trans (tablesStay_iff_indexesStay [] events), fun network reached => ?_⟩
  have latest := current network reached
  have table := @foldl_recordAnswer_adapters _ getAdaptersInfo sizeofAdapterInfo [] events
  have lists := listsAdapters_collectAdapters
    (latestAdapters getAdaptersInfo sizeofAdapterInfo events)
  have serving := latest.serving.served
  rw [show (∅ : InterfaceTable) = collectAdapters ∅ [] from rfl, table] at serving
  refine ⟨fun name => ?_, _, serving, lists.texts⟩
  rw [latest.names name, ← lists.names name, latestAdapters, ← table]
  rfl

end Node

end Windows

end DslinkSystem
