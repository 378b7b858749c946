import DslinkSystem.Network.InterfaceNodes
import DslinkSystem.Library.TextScan

/-!
# The table of `get_network_interfaces`

The getter walks over the list of `getifaddrs`. Each element has the name of an interface and
perhaps an address. For an address of the internet, version 4 or 6, it appends the text of
`getnameinfo` and a blank to what the table has for the name. What `getnameinfo` does is a
parameter.

The walk reads the family of an address that need not be there. It lists every address once,
under its name and in order, exactly when each element has an address
(`network_interfaces_listed_iff`).
-/

set_option autoImplicit false

namespace DslinkSystem

open TextScan

/-! ## The getter -/

/-- `sa_family`: the families that are told apart. -/
inductive AddressFamily where
  | inet
  | inet6
  | other (number : ℕ)
  deriving DecidableEq, Repr

/-- `sockaddr`. -/
structure SockAddr where
  family : AddressFamily
  data : List UInt8
  deriving DecidableEq, Repr

/-- An element of the list of `getifaddrs`. The address may be null. -/
structure IfAddrs where
  ifaName : String
  ifaAddr : Option SockAddr
  deriving DecidableEq, Repr

/-- How the getter ends: with its table, by reading through a null pointer, or by `exit`. -/
inductive InterfacesOutcome where
  | returned (interfaces : InterfaceTable)
  | nullPointer
  | exited

/-- `interfaces[name] += text`. -/
def appendTo (interfaces : InterfaceTable) (name text : String) : InterfaceTable :=
  interfaces.insert name (interfaces.getD name "" ++ text)

/-- `family == AF_INET || family == AF_INET6`. -/
def SockAddr.isInternet (address : SockAddr) : Bool :=
  address.family = .inet || address.family = .inet6

/-- The loop over the list, for what `getnameinfo` gives for an address: a host, or nothing when it
fails. -/
def collectInterfaces (getnameinfo : SockAddr → Option String) :
    List IfAddrs → InterfaceTable → InterfacesOutcome
  | [], interfaces => .returned interfaces
  | ifa :: later, interfaces =>
      match ifa.ifaAddr with
      | none => .nullPointer
      | some address =>
          if address.isInternet then
            match getnameinfo address with
            | none => .exited
            | some host =>
                let interfaces := appendTo interfaces ifa.ifaName host
                collectInterfaces getnameinfo later (appendTo interfaces ifa.ifaName " ")
          else collectInterfaces getnameinfo later interfaces

/-- The getter, for the list that `getifaddrs` gives unless it fails. -/
def interfacesFrom (getnameinfo : SockAddr → Option String) (ifaddr : Option (List IfAddrs)) :
    InterfacesOutcome :=
  match ifaddr with
  | none => .exited
  | some elements => collectInterfaces getnameinfo elements ∅

/-- `info::system::get_network_interfaces()`. -/
def Linux.getNetworkInterfaces (getnameinfo : SockAddr → Option String)
    (ifaddr : Option (List IfAddrs)) : InterfacesOutcome := interfacesFrom getnameinfo ifaddr

/-- `info::system::get_network_interfaces()` in `info_mac.cc`. -/
def MacOS.getNetworkInterfaces (getnameinfo : SockAddr → Option String)
    (ifaddr : Option (List IfAddrs)) : InterfacesOutcome := interfacesFrom getnameinfo ifaddr

/-! ## The addresses of a name -/

/-- What is assumed of `getnameinfo`: it succeeds and gives a text that is not empty and has no
blanks. -/
structure GivesHosts (getnameinfo : SockAddr → Option String) : Prop where
  host : ∀ address : SockAddr, address.isInternet = true →
    ∃ host, getnameinfo address = some host ∧ host.toList ≠ [] ∧ ' ' ∉ host.toList

namespace IfAddrs

/-- The text for an element with an address of the internet. -/
def host? (getnameinfo : SockAddr → Option String) (ifa : IfAddrs) : Option String :=
  (ifa.ifaAddr.filter SockAddr.isInternet).bind getnameinfo

end IfAddrs

/-- The texts for the addresses of a name, in order. -/
def hostsOf (getnameinfo : SockAddr → Option String) (name : String)
    (elements : List IfAddrs) : List String :=
  (elements.filter (·.ifaName = name)).filterMap (IfAddrs.host? getnameinfo)

/-- The table lists every address once: its names are those with an address of the internet, and
the words for a name are the texts of its addresses. -/
structure ListsAddresses (getnameinfo : SockAddr → Option String) (elements : List IfAddrs)
    (interfaces : InterfaceTable) : Prop where
  names : ∀ name, name ∈ interfaces ↔
    ∃ ifa ∈ elements, ifa.ifaName = name ∧ ∃ address, ifa.ifaAddr = some address ∧
      address.isInternet = true
  hosts : ∀ name text, interfaces[name]? = some text →
    words text.toList = (hostsOf getnameinfo name elements).map String.toList

/-! ## The walk -/

variable {getnameinfo : SockAddr → Option String}

/-- The text for a name after one more host. -/
def withHost (text : Option String) (host : String) : Option String :=
  some (text.getD "" ++ host ++ " ")

/-- Appending a host and a blank changes the text for its own name. -/
theorem getElem?_appendTo_appendTo (interfaces : InterfaceTable) (name host other : String) :
    (appendTo (appendTo interfaces name host) name " ")[other]? =
      if name = other then withHost interfaces[other]? host else interfaces[other]? := by
  by_cases same : name = other
  · subst same
    rw [if_pos rfl, appendTo, appendTo, Std.ExtTreeMap.getElem?_insert_self,
      Std.ExtTreeMap.getD_insert_self, withHost, Std.ExtTreeMap.getD_eq_getD_getElem?]
  · simp [appendTo, Std.ExtTreeMap.getElem?_insert, same]

/-- An element has a host exactly when it has an address of the internet. -/
theorem host?_eq_some_iff {ifa : IfAddrs} {host : String} :
    ifa.host? getnameinfo = some host ↔
      ∃ address, ifa.ifaAddr = some address ∧ address.isInternet = true ∧
        getnameinfo address = some host := by
  simp only [IfAddrs.host?, Option.bind_eq_some_iff, Option.filter_eq_some_iff]
  constructor
  · rintro ⟨address, ⟨there, internet⟩, named⟩
    exact ⟨address, there, internet, named⟩
  · rintro ⟨address, there, internet, named⟩
    exact ⟨address, ⟨there, internet⟩, named⟩

/-- The addresses of a list that begins with an element. -/
theorem hostsOf_cons (name : String) (ifa : IfAddrs) (elements : List IfAddrs) :
    hostsOf getnameinfo name (ifa :: elements) =
      (if ifa.ifaName = name then (ifa.host? getnameinfo).toList else []) ++
        hostsOf getnameinfo name elements := by
  by_cases same : ifa.ifaName = name
  · cases host : ifa.host? getnameinfo with
    | none => simp [hostsOf, same, host]
    | some text => simp [hostsOf, same, host]
  · simp [hostsOf, same]

/-- **A walk over elements with addresses** returns, and appends to the text for each name the
hosts of its addresses in order. -/
theorem collectInterfaces_returns (gives : GivesHosts getnameinfo) {elements : List IfAddrs}
    (addressed : ∀ ifa ∈ elements, ifa.ifaAddr ≠ none) (interfaces : InterfaceTable) :
    ∃ after, collectInterfaces getnameinfo elements interfaces = .returned after ∧
      ∀ name, after[name]? =
        (hostsOf getnameinfo name elements).foldl withHost interfaces[name]? := by
  induction elements generalizing interfaces with
  | nil => exact ⟨interfaces, rfl, fun _ => rfl⟩
  | cons ifa elements ih =>
      have later := ih fun other member => addressed other (List.mem_cons_of_mem _ member)
      obtain ⟨address, there⟩ :=
        Option.ne_none_iff_exists'.mp (addressed ifa List.mem_cons_self)
      cases internet : address.isInternet with
      | true =>
          obtain ⟨host, named, -⟩ := gives.host address internet
          have hostOf : ifa.host? getnameinfo = some host :=
            host?_eq_some_iff.mpr ⟨address, there, internet, named⟩
          obtain ⟨after, walked, texts⟩ :=
            later (appendTo (appendTo interfaces ifa.ifaName host) ifa.ifaName " ")
          refine ⟨after, ?_, ?_⟩
          · simp [collectInterfaces, there, internet, named, walked]
          · intro name
            rw [texts, getElem?_appendTo_appendTo, hostsOf_cons, hostOf]
            by_cases same : ifa.ifaName = name
            · simp [same]
            · simp [same]
      | false =>
          have noHost : ifa.host? getnameinfo = none := by
            simp [IfAddrs.host?, there, internet]
          obtain ⟨after, walked, texts⟩ := later interfaces
          refine ⟨after, ?_, ?_⟩
          · simp [collectInterfaces, there, internet, walked]
          · intro name
            rw [texts, hostsOf_cons, noHost]
            simp

/-- A walk over an element without an address ends there. -/
theorem collectInterfaces_null (gives : GivesHosts getnameinfo) {elements : List IfAddrs}
    {ifa : IfAddrs} (member : ifa ∈ elements) (missing : ifa.ifaAddr = none)
    (interfaces : InterfaceTable) :
    collectInterfaces getnameinfo elements interfaces = .nullPointer := by
  induction elements generalizing interfaces with
  | nil => cases member
  | cons first elements ih =>
      cases there : first.ifaAddr with
      | none => simp [collectInterfaces, there]
      | some address =>
          have later : ifa ∈ elements := by
            rcases List.mem_cons.mp member with rfl | later
            · rw [missing] at there
              cases there
            · exact later
          cases internet : address.isInternet with
          | true =>
              obtain ⟨host, named, -⟩ := gives.host address internet
              simp [collectInterfaces, there, internet, named, ih later]
          | false => simp [collectInterfaces, there, internet, ih later]

/-! ## The texts -/

/-- The hosts of some addresses, with a blank after each. -/
theorem toList_foldl_withHost (hosts : List String) (text : String) :
    ∃ after, hosts.foldl withHost (some text) = some after ∧
      after.toList = text.toList ++ (hosts.map String.toList).flatMap (· ++ [' ']) := by
  induction hosts generalizing text with
  | nil => exact ⟨text, rfl, by simp⟩
  | cons host hosts ih =>
      obtain ⟨after, folded, shape⟩ := ih (text ++ host ++ " ")
      refine ⟨after, folded, ?_⟩
      simp [shape]

theorem foldl_withHost_none (hosts : List String) :
    (hosts.foldl withHost none = none ↔ hosts = []) ∧
      ∀ text, hosts.foldl withHost none = some text →
        text.toList = (hosts.map String.toList).flatMap (· ++ [' ']) := by
  cases hosts with
  | nil => simp
  | cons host hosts =>
      obtain ⟨after, folded, shape⟩ := toList_foldl_withHost hosts ("" ++ host ++ " ")
      have whole : (host :: hosts).foldl withHost none = some after := folded
      rw [whole]
      refine ⟨by simp, ?_⟩
      rintro text same
      obtain rfl := Option.some.inj same
      simp [shape]

theorem hostsOf_ne_nil_iff (gives : GivesHosts getnameinfo) {elements : List IfAddrs}
    {name : String} :
    hostsOf getnameinfo name elements ≠ [] ↔
      ∃ ifa ∈ elements, ifa.ifaName = name ∧ ∃ address, ifa.ifaAddr = some address ∧
        address.isInternet = true := by
  constructor
  · intro some_host
    obtain ⟨host, member⟩ := List.exists_mem_of_ne_nil _ some_host
    obtain ⟨ifa, kept, hostOf⟩ := List.mem_filterMap.mp member
    obtain ⟨there, named⟩ := List.mem_filter.mp kept
    obtain ⟨address, has, internet, -⟩ := host?_eq_some_iff.mp hostOf
    exact ⟨ifa, there, by simpa using named, address, has, internet⟩
  · rintro ⟨ifa, there, named, address, has, internet⟩
    obtain ⟨host, gave, -⟩ := gives.host address internet
    have hostOf : ifa.host? getnameinfo = some host :=
      host?_eq_some_iff.mpr ⟨address, has, internet, gave⟩
    have kept : ifa ∈ elements.filter (·.ifaName = name) :=
      List.mem_filter.mpr ⟨there, by simpa using named⟩
    exact List.ne_nil_of_mem (List.mem_filterMap.mpr ⟨ifa, kept, hostOf⟩)

theorem hostsOf_words (gives : GivesHosts getnameinfo) (elements : List IfAddrs) (name : String) :
    words (((hostsOf getnameinfo name elements).map String.toList).flatMap (· ++ [' '])) =
      (hostsOf getnameinfo name elements).map String.toList := by
  apply words_flatMap
  intro word member
  obtain ⟨host, hostMember, rfl⟩ := List.mem_map.mp member
  obtain ⟨ifa, -, hostOf⟩ := List.mem_filterMap.mp hostMember
  obtain ⟨address, -, internet, gave⟩ := host?_eq_some_iff.mp hostOf
  obtain ⟨host', gave', nonempty, noBlank⟩ := gives.host address internet
  obtain rfl := Option.some.inj (gave.symm.trans gave')
  exact ⟨nonempty, noBlank⟩

/-- What a walk makes of an empty table lists every address once. -/
theorem listsAddresses_of_texts (gives : GivesHosts getnameinfo) {elements : List IfAddrs}
    {interfaces : InterfaceTable}
    (texts : ∀ name, interfaces[name]? = (hostsOf getnameinfo name elements).foldl withHost none) :
    ListsAddresses getnameinfo elements interfaces where
  names name := by
    obtain ⟨empty_iff, -⟩ := foldl_withHost_none (hostsOf getnameinfo name elements)
    rw [Std.ExtTreeMap.mem_iff_isSome_getElem?, texts, ← hostsOf_ne_nil_iff gives, ne_eq,
      ← empty_iff, Option.isSome_iff_ne_none]
  hosts name text there := by
    obtain ⟨-, shape⟩ := foldl_withHost_none (hostsOf getnameinfo name elements)
    rw [shape text ((texts name).symm.trans there)]
    exact hostsOf_words gives elements name

/-! ## When every address is listed -/

/-- The getter returns a table that lists every address once. -/
def ReturnsAddresses (getnameinfo : SockAddr → Option String) (elements : List IfAddrs)
    (outcome : InterfacesOutcome) : Prop :=
  ∃ interfaces, outcome = .returned interfaces ∧
    ListsAddresses getnameinfo elements interfaces

theorem interfacesFrom_returns_iff (gives : GivesHosts getnameinfo) (elements : List IfAddrs) :
    ReturnsAddresses getnameinfo elements (interfacesFrom getnameinfo (some elements)) ↔
      ∀ ifa ∈ elements, ifa.ifaAddr ≠ none := by
  constructor
  · rintro ⟨interfaces, returned, -⟩ ifa member missing
    have ends := collectInterfaces_null gives member missing ∅
    rw [interfacesFrom, ends] at returned
    cases returned
  · intro addressed
    obtain ⟨after, walked, texts⟩ := collectInterfaces_returns gives addressed ∅
    refine ⟨after, walked, listsAddresses_of_texts gives fun name => ?_⟩
    rw [texts, Std.ExtTreeMap.getElem?_empty]

/-- **When every address is listed.** On Linux and on macOS the getter returns a table that lists
every address once exactly when each element of the list has an address. -/
theorem network_interfaces_listed_iff (gives : GivesHosts getnameinfo)
    (elements : List IfAddrs) :
    (ReturnsAddresses getnameinfo elements
        (Linux.getNetworkInterfaces getnameinfo (some elements)) ↔
          ∀ ifa ∈ elements, ifa.ifaAddr ≠ none) ∧
      (ReturnsAddresses getnameinfo elements
        (MacOS.getNetworkInterfaces getnameinfo (some elements)) ↔
          ∀ ifa ∈ elements, ifa.ifaAddr ≠ none) :=
  ⟨interfacesFrom_returns_iff gives elements, interfacesFrom_returns_iff gives elements⟩

/-- The hosts of the loopback interface. -/
def loopbackHost (address : SockAddr) : Option String :=
  if address.family = .inet then some "127.0.0.1" else some "::1"

theorem givesHosts_loopbackHost : GivesHosts loopbackHost where
  host address _ := by
    by_cases four : address.family = .inet
    · exact ⟨"127.0.0.1", if_pos four, by decide, by decide⟩
    · exact ⟨"::1", if_neg four, by decide, by decide⟩

/-- The elements of the loopback interface: of the link, and of both versions. -/
def loopbackElements : List IfAddrs :=
  [⟨"lo", some ⟨.other 17, []⟩⟩, ⟨"lo", some ⟨.inet, [127, 0, 0, 1]⟩⟩,
    ⟨"lo", some ⟨.inet6, [0, 0, 0, 0, 0, 0, 0, 0, 0, 0, 0, 0, 0, 0, 0, 1]⟩⟩]

theorem network_interfaces_listed_loopback :
    GivesHosts loopbackHost ∧
      ReturnsAddresses loopbackHost loopbackElements
        (Linux.getNetworkInterfaces loopbackHost (some loopbackElements)) := by
  refine ⟨givesHosts_loopbackHost, ?_⟩
  refine (network_interfaces_listed_iff givesHosts_loopbackHost loopbackElements).1.mpr ?_
  simp [loopbackElements]

/-- A tunnel without an address ends the getter. -/
theorem network_interfaces_null_address :
    ¬ ∀ getnameinfo : SockAddr → Option String, GivesHosts getnameinfo →
      ∀ elements : List IfAddrs,
        ReturnsAddresses getnameinfo elements
            (Linux.getNetworkInterfaces getnameinfo (some elements)) ∧
          ReturnsAddresses getnameinfo elements
            (MacOS.getNetworkInterfaces getnameinfo (some elements)) := by
  intro every
  obtain ⟨⟨interfaces, returned, -⟩, -⟩ :=
    every loopbackHost givesHosts_loopbackHost [⟨"tun0", none⟩]
  cases returned

end DslinkSystem
