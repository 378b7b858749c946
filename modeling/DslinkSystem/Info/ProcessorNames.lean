import DslinkSystem.Library.Holdings
import DslinkSystem.Library.TextScan
import Mathlib.Data.List.TakeWhile

/-!
# The names of the processor on Windows

`get_model_name` asks the processor for one leaf of identification after another, up to the
last one it says it has, and copies what three of them give into a buffer of zeros. The
counter of the loop has 32 bits. `get_vendor` reads a value of the registry into a buffer
of 13 bytes.

* The loop ends unless the processor says that the largest number is a leaf, and then the
  model name is as much of the brand string as the leaves up to the last one hold
  (`modelName_read_iff`).
* The vendor is read when it fits, with the zero that ends it, and is empty otherwise; the
  key of the registry stays open after each call that opened it (`getVendor_reads`).
-/

set_option autoImplicit false

namespace DslinkSystem

open TextScan Holdings

namespace Windows

/-! ## The model name -/

/-- `int CPUInfo[4]`. -/
structure CpuidLeaf where
  eax : UInt32
  ebx : UInt32
  ecx : UInt32
  edx : UInt32
  deriving DecidableEq, Repr

/-- A register in memory, the lowest byte first. -/
def registerBytes (register : UInt32) : Text :=
  (List.range 4).map fun byte => Char.ofNat (register.toNat / 256 ^ byte % 256)

/-- The array in memory. -/
def CpuidLeaf.bytes (leaf : CpuidLeaf) : Text :=
  registerBytes leaf.eax ++ registerBytes leaf.ebx ++ registerBytes leaf.ecx ++
    registerBytes leaf.edx

/-- `memcpy(buffer + offset, bytes, sizeof(bytes))`. -/
def memcpy (buffer : Text) (offset : ℕ) (bytes : Text) : Text :=
  buffer.take offset ++ bytes ++ buffer.drop (offset + bytes.length)

/-- Some bytes of zeros. -/
def zeros (n : ℕ) : Text := List.replicate n '\x00'

section Leaves

variable (cpuid : UInt32 → CpuidLeaf)

/-- One turn of the loop. -/
def readLeaf (brandString : Text) (i : UInt32) : Text :=
  if i = 0x80000002 then memcpy brandString 0 (cpuid i).bytes
  else if i = 0x80000003 then memcpy brandString 16 (cpuid i).bytes
  else if i = 0x80000004 then memcpy brandString 32 (cpuid i).bytes
  else brandString

/-- The loop from a leaf on, if it ends within a number of turns. -/
def readLeaves (nExIds : UInt32) : ℕ → UInt32 → Text → Option Text
  | 0, _, _ => none
  | turns + 1, i, brandString =>
      if i ≤ nExIds then readLeaves nExIds turns (i + 1) (readLeaf cpuid brandString i)
      else some brandString

/-- `info::cpu::get_model_name()`, if its loop ends within a number of turns. -/
def getModelName (turns : ℕ) : Option Text :=
  (readLeaves cpuid (cpuid 0x80000000).eax turns 0x80000000 (zeros 64)).map cString

end Leaves

/-! ## What the loop leaves in the buffer -/

/-- The number of a leaf, counted from the first one of the loop. -/
def firstLeaf : ℕ := 0x80000000

/-- How many of the three leaves of the brand string are among the first ones. -/
def brandLeaves (leaves : ℕ) : ℕ := min 3 (leaves - 2)

section Brand

variable (cpuid : UInt32 → CpuidLeaf)

/-- The brand string in the three leaves. -/
def brandBytes : Text :=
  (cpuid 0x80000002).bytes ++ (cpuid 0x80000003).bytes ++ (cpuid 0x80000004).bytes

/-- The buffer after the first leaves. -/
def brandBuffer (leaves : ℕ) : Text :=
  (brandBytes cpuid).take (16 * brandLeaves leaves) ++ zeros (64 - 16 * brandLeaves leaves)

end Brand

variable {cpuid : UInt32 → CpuidLeaf} {nExIds : UInt32}

@[simp] theorem length_registerBytes (register : UInt32) : (registerBytes register).length = 4 := by
  simp [registerBytes]

@[simp] theorem length_bytes (leaf : CpuidLeaf) : leaf.bytes.length = 16 := by
  simp [CpuidLeaf.bytes]

theorem length_brandBytes : (brandBytes cpuid).length = 48 := by
  simp [brandBytes]

/-- Copying what comes next into a buffer that has the first part of a text and zeros. -/
theorem memcpy_take {text bytes : Text} {offset room : ℕ} (within : offset ≤ text.length)
    (comes_next : bytes = (text.drop offset).take 16) (whole : bytes.length = 16) :
    memcpy (text.take offset ++ zeros room) offset bytes =
      text.take (offset + 16) ++ zeros (room - 16) := by
  have length : (text.take offset).length = offset := List.length_take_of_le within
  have before : (text.take offset ++ zeros room).take offset = text.take offset :=
    List.take_left' length
  have behind : (text.take offset ++ zeros room).drop (offset + 16) = zeros (room - 16) := by
    rw [← List.drop_drop, List.drop_left' length, zeros, List.drop_replicate]
    rfl
  rw [memcpy, whole, before, behind, List.take_add, ← comes_next]

/-- The part of the brand string that is in a leaf. -/
theorem brandBytes_parts :
    (cpuid 0x80000002).bytes = ((brandBytes cpuid).drop 0).take 16 ∧
      (cpuid 0x80000003).bytes = ((brandBytes cpuid).drop 16).take 16 ∧
        (cpuid 0x80000004).bytes = ((brandBytes cpuid).drop 32).take 16 := by
  have both : ((cpuid 0x80000002).bytes ++ (cpuid 0x80000003).bytes).length = 32 := by simp
  refine ⟨?_, ?_, ?_⟩
  · rw [List.drop_zero, brandBytes, List.append_assoc, List.take_left' (length_bytes _)]
  · rw [brandBytes, List.append_assoc, List.drop_left' (length_bytes _),
      List.take_left' (length_bytes _)]
  · rw [brandBytes, List.drop_left' both, List.take_of_length_le (length_bytes _).le]

/-- One more of the three leaves in the buffer. -/
theorem memcpy_brandBuffer {leaves : ℕ} {bytes : Text}
    (one_more : brandLeaves (leaves + 1) = brandLeaves leaves + 1)
    (part : bytes = ((brandBytes cpuid).drop (16 * brandLeaves leaves)).take 16)
    (whole : bytes.length = 16) :
    memcpy (brandBuffer cpuid leaves) (16 * brandLeaves leaves) bytes =
      brandBuffer cpuid (leaves + 1) := by
  have few : brandLeaves (leaves + 1) ≤ 3 := Nat.min_le_left _ _
  have within : 16 * brandLeaves leaves ≤ (brandBytes cpuid).length := by
    rw [length_brandBytes]
    omega
  rw [brandBuffer, memcpy_take within part whole, brandBuffer, one_more, Nat.mul_succ,
    Nat.sub_sub]

/-- **One turn of the loop** fills in its part of the brand string, if it has one. -/
theorem readLeaf_brandBuffer {i : UInt32} {leaves : ℕ}
    (number : i.toNat = firstLeaf + leaves) :
    readLeaf cpuid (brandBuffer cpuid leaves) i = brandBuffer cpuid (leaves + 1) := by
  have is_leaf : ∀ n : ℕ, n < 5 → (i = UInt32.ofNat (firstLeaf + n) ↔ leaves = n) := by
    intro n small
    have room : firstLeaf + n < 2 ^ 32 := by
      rw [firstLeaf]
      omega
    rw [← UInt32.toNat_inj, number, UInt32.toNat_ofNat', Nat.mod_eq_of_lt room]
    omega
  have second : i = 0x80000002 ↔ leaves = 2 := is_leaf 2 (by decide)
  have third : i = 0x80000003 ↔ leaves = 3 := is_leaf 3 (by decide)
  have fourth : i = 0x80000004 ↔ leaves = 4 := is_leaf 4 (by decide)
  obtain ⟨part, part', part''⟩ := @brandBytes_parts cpuid
  rw [readLeaf]
  by_cases two : leaves = 2
  · subst two
    rw [if_pos (second.mpr rfl), second.mpr rfl]
    exact memcpy_brandBuffer rfl part (length_bytes _)
  rw [if_neg (second.not.mpr two)]
  by_cases three : leaves = 3
  · subst three
    rw [if_pos (third.mpr rfl), third.mpr rfl]
    exact memcpy_brandBuffer rfl part' (length_bytes _)
  rw [if_neg (third.not.mpr three)]
  by_cases four : leaves = 4
  · subst four
    rw [if_pos (fourth.mpr rfl), fourth.mpr rfl]
    exact memcpy_brandBuffer rfl part'' (length_bytes _)
  rw [if_neg (fourth.not.mpr four)]
  have same : brandLeaves leaves = brandLeaves (leaves + 1) := by
    rw [brandLeaves, brandLeaves]
    omega
  rw [brandBuffer, same]
  rfl

/-- A loop up to the largest number does not end. -/
theorem readLeaves_largest (turns : ℕ) (i : UInt32) (brandString : Text) :
    readLeaves cpuid 0xFFFFFFFF turns i brandString = none := by
  induction turns generalizing i brandString with
  | zero => rfl
  | succ turns ih =>
      have within : i ≤ 0xFFFFFFFF := by
        rw [UInt32.le_iff_toNat_le]
        exact Nat.le_of_lt_succ i.toNat_lt
      rw [readLeaves, if_pos within, ih]

/-- How many leaves the loop takes up to a number. -/
def leavesUpTo (nExIds : UInt32) : ℕ := nExIds.toNat + 1 - firstLeaf

/-- **The loop up to another number** takes the leaves in order and ends. -/
theorem readLeaves_brandBuffer (small : nExIds ≠ 0xFFFFFFFF) (turns : ℕ) {i : UInt32}
    {leaves : ℕ} (number : i.toNat = firstLeaf + leaves) (within : leaves ≤ leavesUpTo nExIds) :
    readLeaves cpuid nExIds turns i (brandBuffer cpuid leaves) =
      if leavesUpTo nExIds - leaves < turns then some (brandBuffer cpuid (leavesUpTo nExIds))
      else none := by
  have bound : nExIds.toNat + 1 < 2 ^ 32 := by
    have other : nExIds.toNat ≠ (0xFFFFFFFF : UInt32).toNat := UInt32.toNat_inj.not.mpr small
    have below := nExIds.toNat_lt
    have largest : (0xFFFFFFFF : UInt32).toNat = 2 ^ 32 - 1 := by decide
    omega
  induction turns generalizing i leaves with
  | zero => rw [readLeaves, if_neg (Nat.not_lt_zero _)]
  | succ turns ih =>
      have goes_on : i ≤ nExIds ↔ leaves < leavesUpTo nExIds := by
        rw [UInt32.le_iff_toNat_le, number, leavesUpTo]
        omega
      rw [readLeaves]
      by_cases more : leaves < leavesUpTo nExIds
      · have succ : (i + 1).toNat = firstLeaf + (leaves + 1) := by
          have room : firstLeaf + leaves + 1 < 2 ^ 32 := by
            rw [leavesUpTo] at more
            omega
          rw [UInt32.toNat_add, number, UInt32.toNat_one, Nat.mod_eq_of_lt room, Nat.add_assoc]
        rw [if_pos (goes_on.mpr more), readLeaf_brandBuffer number, ih succ more]
        have same : leavesUpTo nExIds - (leaves + 1) < turns ↔
            leavesUpTo nExIds - leaves < turns + 1 := by
          omega
        simp only [same]
      · have last : leaves = leavesUpTo nExIds := by omega
        rw [if_neg (goes_on.not.mpr more), last, Nat.sub_self, if_pos (Nat.succ_pos turns)]

/-! ## What the model name is -/

/-- The processor has a brand string, with a zero behind it, in its three leaves. -/
def HasBrand (cpuid : UInt32 → CpuidLeaf) (brand : Text) : Prop :=
  '\x00' ∉ brand ∧ ∃ rest, brandBytes cpuid = brand ++ '\x00' :: rest

/-- As much of the brand string as the last leaf allows. -/
def readableBrand (cpuid : UInt32 → CpuidLeaf) (brand : Text) : Text :=
  brand.take (16 * brandLeaves (leavesUpTo (cpuid 0x80000000).eax))

/-- The first part of a text that ends with a zero, with zeros behind. -/
theorem cString_take_append_zeros {text : Text} (clean : '\x00' ∉ text) (rest : Text)
    (length room : ℕ) :
    cString ((text ++ '\x00' :: rest).take length ++ zeros (room + 1)) = text.take length := by
  by_cases cut : length ≤ text.length
  · rw [List.take_append_of_le_length cut, zeros, List.replicate_succ]
    exact cString_append_nul (fun member => clean (List.mem_of_mem_take member)) _
  · obtain ⟨more, rfl⟩ := Nat.exists_eq_add_of_lt (Nat.not_le.mp cut)
    rw [Nat.add_assoc, List.take_length_add_append, List.take_succ_cons, List.append_assoc,
      List.cons_append, cString_append_nul clean]
    exact (List.take_of_length_le (Nat.le_add_right _ _)).symm

/-- **What `get_model_name` returns.** -/
theorem getModelName_eq {brand : Text} (has : HasBrand cpuid brand) (turns : ℕ) :
    getModelName cpuid turns =
      if (cpuid 0x80000000).eax ≠ 0xFFFFFFFF ∧ leavesUpTo (cpuid 0x80000000).eax < turns then
        some (readableBrand cpuid brand)
      else none := by
  obtain ⟨clean, rest, whole⟩ := has
  have empty : zeros 64 = brandBuffer cpuid 0 := rfl
  rw [getModelName, empty]
  by_cases largest : (cpuid 0x80000000).eax = 0xFFFFFFFF
  · rw [if_neg (fun both => both.1 largest), largest, readLeaves_largest]
    rfl
  · rw [readLeaves_brandBuffer largest turns rfl (Nat.zero_le _), Nat.sub_zero]
    simp only [ne_eq, largest, not_false_eq_true, true_and]
    split
    · rw [Option.map_some, brandBuffer, whole, readableBrand]
      have few : brandLeaves (leavesUpTo (cpuid 0x80000000).eax) ≤ 3 := Nat.min_le_left _ _
      obtain ⟨room, behind⟩ := Nat.exists_eq_add_of_lt
        (show 16 * brandLeaves (leavesUpTo (cpuid 0x80000000).eax) < 64 by omega)
      have zerosBehind : 64 - 16 * brandLeaves (leavesUpTo (cpuid 0x80000000).eax) = room + 1 := by
        omega
      rw [zerosBehind, cString_take_append_zeros clean]
    · rfl

/-- **When the model name is read.** Whatever the processor answers, when it has a brand
string: the loop ends exactly when the last leaf is not the largest number, and then the name
is the part of the brand string that the leaves up to the last one hold. It is all of it
exactly when it has at most 16 bytes for each of these leaves. -/
theorem modelName_read_iff {brand : Text} (has : HasBrand cpuid brand) :
    ((∃ turns name, getModelName cpuid turns = some name) ↔
      (cpuid 0x80000000).eax ≠ 0xFFFFFFFF) ∧
    ∀ turns name, getModelName cpuid turns = some name →
      name = readableBrand cpuid brand ∧
        (name = brand ↔
          brand.length ≤ 16 * brandLeaves (leavesUpTo (cpuid 0x80000000).eax)) := by
  constructor
  · constructor
    · rintro ⟨turns, name, ended⟩ largest
      rw [getModelName_eq has, if_neg (fun both => both.1 largest)] at ended
      cases ended
    · intro other
      refine ⟨leavesUpTo (cpuid 0x80000000).eax + 1, readableBrand cpuid brand, ?_⟩
      rw [getModelName_eq has, if_pos ⟨other, Nat.lt_succ_self _⟩]
  · intro turns name ended
    rw [getModelName_eq has, Option.ite_none_right_eq_some] at ended
    obtain ⟨-, same⟩ := ended
    obtain rfl := Option.some.inj same
    exact ⟨rfl, List.take_eq_self_iff _⟩

/-- A processor with a short brand string and four leaves. -/
def shortBrand (leaf : UInt32) : CpuidLeaf :=
  if leaf = 0x80000000 then ⟨0x80000004, 0, 0, 0⟩
  else if leaf = 0x80000002 then ⟨0x36383469, 0, 0, 0⟩
  else ⟨0, 0, 0, 0⟩

theorem modelName_read_short :
    HasBrand shortBrand "i486".toList ∧
      ∃ turns name, getModelName shortBrand turns = some name := by
  have has : HasBrand shortBrand "i486".toList := by
    refine ⟨by decide, zeros 43, by decide⟩
  exact ⟨has, (modelName_read_iff has).1.mpr (by decide)⟩

/-! ## The vendor -/

/-- What the registry answers: the key cannot be opened, it has no such value, or the value
with the bytes that were stored. -/
inductive RegistryAnswer where
  | noKey
  | noValue
  | value (data : Text)
  deriving DecidableEq, Repr

/-- `central_processor_subkey<IdentLen>(key)`, over the keys that are open. Data that is too
long is not copied; without a zero in it, the text is read beyond the buffer. -/
def centralProcessorSubkey (identLen : ℕ) (answer : RegistryAnswer) : Holding Unit Text :=
  match answer with
  | .noKey => return []
  | .noValue => do
      acquire ()
      return []
  | .value data => do
      acquire ()
      if identLen < data.length then return []
      if '\x00' ∈ data then return cString data
      failure

/-- `info::cpu::get_vendor()`. -/
def getVendor (answer : RegistryAnswer) : Holding Unit Text := centralProcessorSubkey 13 answer

/-- The vendor that the registry has, with the zero behind it. -/
def vendorAnswer (vendor : Text) : RegistryAnswer := .value (vendor ++ ['\x00'])

/-- The text for a vendor: it is not empty when it fits. -/
def vendorText (vendor : Text) : Text := if vendor.length ≤ 12 then vendor else []

theorem triple_getVendor {vendor : Text} (clean : '\x00' ∉ vendor) :
    Triple 0 (getVendor (vendorAnswer vendor)) (some (vendorText vendor)) (() ::ₘ 0) := by
  rw [getVendor, vendorAnswer, centralProcessorSubkey, vendorText]
  refine (triple_acquire ()).after_step ?_
  have length : (vendor ++ ['\x00']).length = vendor.length + 1 := by simp
  by_cases fits : vendor.length ≤ 12
  · have kept : ¬ 13 < (vendor ++ ['\x00']).length := by omega
    rw [if_neg kept, if_pos fits, if_pos (by simp), cString_append_nul clean]
    exact triple_pure vendor
  · have long : 13 < (vendor ++ ['\x00']).length := by omega
    rw [if_pos long, if_neg fits]
    exact triple_pure []

/-- **The vendor** is read exactly when it has at most 12 bytes, and each call leaves one more
key open. -/
theorem getVendor_reads {vendor : Text} (clean : '\x00' ∉ vendor) (held : Multiset Unit) :
    ∃ text, getVendor (vendorAnswer vendor) held = some (text, () ::ₘ held) ∧
      (text = vendor ↔ vendor.length ≤ 12) := by
  have ran := triple_getVendor clean held
  rw [Multiset.zero_add, Multiset.cons_add, Multiset.zero_add] at ran
  refine ⟨vendorText vendor, ran, ?_⟩
  rw [vendorText]
  split
  · rename_i fits
    exact iff_of_true rfl fits
  · rename_i long
    refine iff_of_false (fun same => long ?_) long
    rw [← same]
    exact Nat.zero_le 12

end Windows

end DslinkSystem
