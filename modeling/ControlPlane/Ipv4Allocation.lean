import Mathlib.Order.Bounds.Defs
import ControlPlane.CommandAgreement
import ControlPlane.Numerals

/-!
The allocation of an address from a pool, against the addresses as numbers: the
canonical text of an address is read back as the address, and the first address
that the allocation comes to is the least that may be assigned.
-/
namespace ControlPlane.Ipv4Allocation
open ControlPlane.Texts ControlPlane.Domain ControlPlane.CommandAgreement

/-! ### The text of an address -/

theorem shift_octet {result : BitVec 32} {octet : Nat} (room : result.toNat < 2 ^ 24) (small : octet < 256) :
    (result <<< 8 ||| BitVec.ofNat 32 octet).toNat = result.toNat * 256 + octet := by
  rw [BitVec.toNat_or, BitVec.toNat_shiftLeft, BitVec.toNat_ofNat, Nat.mod_eq_of_lt (show octet < 2 ^ 32 by omega)]
  have shifted : result.toNat <<< 8 % 2 ^ 32 = result.toNat <<< 8 := Nat.mod_eq_of_lt (by rw [Nat.shiftLeft_eq]; omega)
  rw [shifted, ← Nat.shiftLeft_add_eq_or_of_lt (show octet < 2 ^ 8 by omega), Nat.shiftLeft_eq]

theorem octet_toNat (address : BitVec 32) (shift : Nat) :
    ((address >>> shift) &&& 255#32).toNat = address.toNat / 2 ^ shift % 256 := by
  rw [BitVec.toNat_and, BitVec.toNat_ushiftRight, Nat.shiftRight_eq_div_pow]
  exact Nat.and_two_pow_sub_one_eq_mod _ 8

/-- One more octet is read. -/
theorem shiftOctets_cons {result : BitVec 32} {octet : String} {rest : List String} (spelled : isOctetText octet = true)
    (small : digitsValue octet.toList < 256) :
    shiftOctets result (octet :: rest) = shiftOctets (result <<< 8 ||| BitVec.ofNat 32 (digitsValue octet.toList)) rest := by
  simp only [shiftOctets, spelled, Bool.not_true, Bool.false_eq_true, if_false]
  exact if_neg (by omega)

/-- Four octets shifted together. -/
theorem shiftOctets_four {a b c d : String} (octets : ∀ octet ∈ [a, b, c, d], isOctetText octet = true ∧ digitsValue octet.toList < 256) :
    ∃ address, shiftOctets 0 [a, b, c, d] = some address ∧ address.toNat =
      ((digitsValue a.toList * 256 + digitsValue b.toList) * 256 + digitsValue c.toList) * 256 + digitsValue d.toList := by
  obtain ⟨first, second, third, fourth, -⟩ := by simpa only [List.forall_mem_cons] using octets
  refine ⟨_, (shiftOctets_cons first.1 first.2).trans ((shiftOctets_cons second.1 second.2).trans
    ((shiftOctets_cons third.1 third.2).trans (shiftOctets_cons fourth.1 fourth.2))), ?_⟩
  have one : ((0 : BitVec 32) <<< 8 ||| BitVec.ofNat 32 (digitsValue a.toList)).toNat = digitsValue a.toList := by
    rw [shift_octet (by decide) first.2]
    simp
  have two := @shift_octet ((0 : BitVec 32) <<< 8 ||| BitVec.ofNat 32 (digitsValue a.toList)) _ (by omega) second.2
  rw [one] at two
  have three := @shift_octet (((0 : BitVec 32) <<< 8 ||| BitVec.ofNat 32 (digitsValue a.toList)) <<< 8 |||
    BitVec.ofNat 32 (digitsValue b.toList)) _ (by omega) third.2
  rw [two] at three
  rw [shift_octet (by omega) fourth.2, three]

/-- The octets of an address, from its text. -/
theorem split_dottedDecimal (address : BitVec 32) : split '.' (dottedDecimal address) =
    [24, 16, 8, 0].map fun shift => toString ((address >>> shift) &&& 255#32).toNat := by
  have small (shift : Nat) : ((address >>> shift) &&& 255#32).toNat < 256 := by
    rw [octet_toNat]
    exact Nat.mod_lt _ (by decide)
  refine split_intercalate ?_
  simp only [List.forall_mem_cons]
  exact ⟨(octet_text _ (small 24)).2.2, (octet_text _ (small 16)).2.2, (octet_text _ (small 8)).2.2, (octet_text _ (small 0)).2.2, nofun⟩

/-- The text of an address is read as the address. -/
theorem strictIpv4_dottedDecimal (address : BitVec 32) : strictIpv4 (dottedDecimal address) = some address := by
  have octet (shift : Nat) : isOctetText (toString ((address >>> shift) &&& 255#32).toNat) = true ∧
      digitsValue (toString ((address >>> shift) &&& 255#32).toNat).toList < 256 := by
    have small : ((address >>> shift) &&& 255#32).toNat < 256 := by
      rw [octet_toNat]
      exact Nat.mod_lt _ (by decide)
    obtain ⟨spelled, value, -⟩ := octet_text _ small
    exact ⟨spelled, value.symm ▸ small⟩
  obtain ⟨read, shifted, value⟩ := @shiftOctets_four (toString ((address >>> 24) &&& 255#32).toNat)
    (toString ((address >>> 16) &&& 255#32).toNat) (toString ((address >>> 8) &&& 255#32).toNat)
    (toString ((address >>> 0) &&& 255#32).toNat) (by
      simp only [List.forall_mem_cons]
      exact ⟨octet 24, octet 16, octet 8, octet 0, nofun⟩)
  have same : read = address := by
    refine BitVec.eq_of_toNat_eq ?_
    simp only [Numerals.digitsValue_toString, octet_toNat] at value
    have bound := address.isLt
    omega
  rw [strictIpv4, split_dottedDecimal]
  exact same ▸ shifted

theorem splitChars_ne_nil (separator : Char) (text : List Char) : splitChars separator text ≠ [] := by
  cases text with
  | nil => exact List.cons_ne_nil _ _
  | cons c rest =>
    rw [splitChars]
    repeat' split
    all_goals exact List.cons_ne_nil _ _

/-- A text that is cut at a character, joined again. -/
theorem intercalate_splitChars (separator : Char) (text : List Char) :
    [separator].intercalate (splitChars separator text) = text := by
  induction text with
  | nil => rfl
  | cons c rest ih =>
    rw [splitChars]
    split
    next same => rw [List.intercalate_cons_of_ne_nil (splitChars_ne_nil _ _), ih, same]; rfl
    next =>
      split
      next none => exact absurd none (splitChars_ne_nil _ _)
      next part parts whole =>
        rw [whole] at ih
        cases parts with
        | nil =>
          rw [List.intercalate_singleton] at ih ⊢
          rw [ih]
        | cons next more =>
          rw [List.intercalate_cons_cons] at ih ⊢
          rw [← ih]
          rfl

theorem intercalate_split (text : String) : ".".intercalate (split '.' text) = text := by
  rw [← String.toList_inj, String.toList_intercalate, split, List.map_map]
  have whole := intercalate_splitChars '.' text.toList
  have kept : (splitChars '.' text.toList).map (String.toList ∘ String.ofList) = splitChars '.' text.toList := by
    simp [Function.comp_def]
  rw [kept]
  exact whole

/-- An octet is the text of its number. -/
theorem toString_octet {octet : String} (spelled : isOctetText octet = true) : toString (digitsValue octet.toList) = octet := by
  refine Numerals.toString_digitsValue ?_
  unfold isOctetText at spelled
  unfold isNaturalText
  split at spelled
  next => rfl
  next first rest _ _ =>
    simp only [Bool.and_eq_true] at spelled ⊢
    exact ⟨spelled.1.1, spelled.2⟩
  next => cases spelled

theorem dottedDecimal_strictIpv4 {value : String} {address : BitVec 32} (read : strictIpv4 value = some address) :
    value = dottedDecimal address := by
  simp only [strictIpv4] at read
  split at read
  next => cases read
  next four =>
    obtain ⟨a, b, c, d, parts⟩ := List.length_eq_four.mp (not_not.mp four)
    rw [parts] at read
    have octets := fun octet member => (shiftOctets_octets read octet member).imp id Nat.lt_succ_of_le
    obtain ⟨shifted, same, number⟩ := shiftOctets_four octets
    obtain rfl := Option.some.inj (same.symm.trans read)
    obtain ⟨first, second, third, fourth, -⟩ := by simpa only [List.forall_mem_cons] using octets
    rw [← intercalate_split value, parts, dottedDecimal]
    simp only [List.map_cons, List.map_nil, octet_toNat]
    have one : shifted.toNat / 2 ^ 24 % 256 = digitsValue a.toList := by omega
    have two : shifted.toNat / 2 ^ 16 % 256 = digitsValue b.toList := by omega
    have three : shifted.toNat / 2 ^ 8 % 256 = digitsValue c.toList := by omega
    have four : shifted.toNat / 2 ^ 0 % 256 = digitsValue d.toList := by omega
    rw [one, two, three, four, toString_octet first.1, toString_octet second.1, toString_octet third.1, toString_octet fourth.1]

/-- A text is read as an address exactly when it is the canonical text of it. -/
theorem strictIpv4_iff {value : String} {address : BitVec 32} : strictIpv4 value = some address ↔ value = dottedDecimal address :=
  ⟨dottedDecimal_strictIpv4, fun same => same ▸ strictIpv4_dottedDecimal address⟩

theorem dottedDecimal_injective {a b : BitVec 32} (same : dottedDecimal a = dottedDecimal b) : a = b :=
  Option.some.inj ((strictIpv4_dottedDecimal a).symm.trans (strictIpv4_iff.mpr same))

theorem dottedDecimal_ne_empty (address : BitVec 32) : dottedDecimal address ≠ "" := by
  intro nothing
  have empty := strictIpv4_dottedDecimal address
  rw [nothing, show strictIpv4 "" = none by decide] at empty
  cases empty

/-! ### The first free address -/

section
variable {network : BitVec 32} {taken : String → Bool} {offset remaining : Nat}

theorem firstFree_some {address : String} (found : firstFree network taken offset remaining = some address) :
    ∃ k, offset ≤ k ∧ k < offset + remaining ∧ address = dottedDecimal (network + BitVec.ofNat 32 k) ∧ taken address = false ∧
      ∀ j, offset ≤ j → j < k → taken (dottedDecimal (network + BitVec.ofNat 32 j)) = true := by
  induction remaining generalizing offset with
  | zero => cases found
  | succ remaining ih =>
    simp only [firstFree] at found
    split at found
    next busy =>
      obtain ⟨k, low, high, same, free, before⟩ := ih found
      refine ⟨k, by omega, by omega, same, free, fun j from_ until_ => ?_⟩
      rcases Nat.eq_or_lt_of_le from_ with rfl | later
      · exact busy
      · exact before j later until_
    next free =>
      obtain rfl := Option.some.inj found
      exact ⟨offset, le_rfl, by omega, rfl, by simpa using free, fun j _ _ => by omega⟩

theorem firstFree_none (missing : firstFree network taken offset remaining = none) :
    ∀ k, offset ≤ k → k < offset + remaining → taken (dottedDecimal (network + BitVec.ofNat 32 k)) = true := by
  induction remaining generalizing offset with
  | zero => exact fun k _ _ => by omega
  | succ remaining ih =>
    simp only [firstFree] at missing
    split at missing
    next busy =>
      intro k low high
      rcases Nat.eq_or_lt_of_le low with rfl | later
      · exact busy
      · exact ih missing k later (by omega)
    next => cases missing

end

/-! ### Pools -/

/-- A network of a prefix length that leaves addresses to assign, without host bits. -/
structure Network where
  address : BitVec 32
  length : Nat
  least : 1 ≤ length
  most : length ≤ 30
  aligned : address &&& BitVec.ofNat 32 (2 ^ (32 - length) - 1) = 0

namespace Network

/-- The address of the network with all host bits set. -/
def broadcast (network : Network) : BitVec 32 := network.address ||| BitVec.ofNat 32 (2 ^ (32 - network.length) - 1)

/-- `a.b.c.d/p`. -/
def cidr (network : Network) : String := dottedDecimal network.address ++ "/" ++ toString network.length

/-- The addresses that may be assigned: strictly between the network and its broadcast
    address, and neither the gateway nor excluded nor leased. -/
def assignable (network : Network) (gateway : BitVec 32) (exclusions leased : List (BitVec 32)) : Set (BitVec 32) :=
  {address | network.address < address ∧ address < network.broadcast ∧ address ≠ gateway ∧ address ∉ exclusions ∧ address ∉ leased}

variable (network : Network)

/-- The number of addresses, with those of the network and of the broadcast. -/
def hosts : Nat := 2 ^ (32 - network.length)

theorem hosts_ge : 4 ≤ network.hosts := by
  have most := network.most
  calc 4 = 2 ^ 2 := rfl
    _ ≤ 2 ^ (32 - network.length) := Nat.pow_le_pow_right (by decide) (by omega)

theorem hosts_dvd : network.hosts ∣ 2 ^ 32 := Nat.pow_dvd_pow 2 (Nat.sub_le _ _)

theorem hosts_lt : network.hosts < 2 ^ 32 := by
  have least := network.least
  exact Nat.pow_lt_pow_right (by decide) (by omega)

theorem mask_toNat : (BitVec.ofNat 32 (network.hosts - 1)).toNat = network.hosts - 1 := by
  have below := network.hosts_lt
  rw [BitVec.toNat_ofNat, Nat.mod_eq_of_lt (by omega)]

theorem hosts_dvd_address : network.hosts ∣ network.address.toNat := by
  have masked := congrArg BitVec.toNat network.aligned
  rw [BitVec.toNat_and, ← hosts, mask_toNat, hosts, Nat.and_two_pow_sub_one_eq_mod] at masked
  exact Nat.dvd_of_mod_eq_zero masked

/-- The network ends within the addresses. -/
theorem address_add_hosts_le : network.address.toNat + network.hosts ≤ 2 ^ 32 := by
  obtain ⟨blocks, total⟩ := network.hosts_dvd
  obtain ⟨block, start⟩ := network.hosts_dvd_address
  have inside := network.address.isLt
  rw [start, total] at *
  have before : block < blocks := Nat.lt_of_mul_lt_mul_left inside
  calc network.hosts * block + network.hosts = network.hosts * (block + 1) := rfl
    _ ≤ network.hosts * blocks := Nat.mul_le_mul_left _ before

theorem broadcast_toNat : network.broadcast.toNat = network.address.toNat + (network.hosts - 1) := by
  obtain ⟨block, start⟩ := network.hosts_dvd_address
  have small : 2 ^ (32 - network.length) - 1 < 2 ^ (32 - network.length) := Nat.sub_lt (Nat.two_pow_pos _) (by decide)
  rw [broadcast, BitVec.toNat_or, ← hosts, mask_toNat, start, hosts, Nat.mul_comm, ← Nat.shiftLeft_eq,
    ← Nat.shiftLeft_add_eq_or_of_lt small]

theorem add_toNat {offset : Nat} (inside : offset < network.hosts) :
    (network.address + BitVec.ofNat 32 offset).toNat = network.address.toNat + offset := by
  have ends := network.address_add_hosts_le
  rw [BitVec.toNat_add, BitVec.toNat_ofNat, Nat.mod_eq_of_lt (show offset < 2 ^ 32 by omega), Nat.mod_eq_of_lt (by omega)]

/-- The addresses strictly between the ends are the offsets of the allocation. -/
theorem between_iff {address : BitVec 32} : network.address < address ∧ address < network.broadcast ↔
    ∃ offset, 1 ≤ offset ∧ offset < 1 + (network.hosts - 2) ∧ address = network.address + BitVec.ofNat 32 offset := by
  have many := network.hosts_ge
  rw [BitVec.lt_def, BitVec.lt_def, broadcast_toNat]
  constructor
  · rintro ⟨after, before⟩
    refine ⟨address.toNat - network.address.toNat, by omega, by omega, BitVec.eq_of_toNat_eq ?_⟩
    rw [add_toNat network (by omega)]
    omega
  · rintro ⟨offset, least, most, rfl⟩
    rw [add_toNat network (by omega)]
    omega

omit network in
theorem slash_free_natural (value : Nat) : '/' ∉ Nat.toDigits 10 value := by
  intro member
  have digit := Numerals.isDigit_toString '/' (Nat.toList_repr ▸ member)
  rw [show isDigit '/' = false by decide] at digit
  cases digit

omit network in
theorem slash_free (address : BitVec 32) : '/' ∉ (dottedDecimal address).toList := by
  rw [dottedDecimal, String.toList_intercalate]
  simp [List.intercalate_cons_cons, slash_free_natural]

theorem split_cidr : split '/' network.cidr = [dottedDecimal network.address, toString network.length] := by
  have spelled : network.cidr.toList = (dottedDecimal network.address).toList ++ '/' :: (toString network.length).toList := by
    simp [cidr]
  have digits : '/' ∉ (toString network.length).toList := fun member => slash_free_natural _ (Nat.toList_repr ▸ member)
  rw [split, spelled, splitChars_append (slash_free _), splitChars_of_not_mem digits]
  simp only [List.map_cons, List.map_nil, String.ofList_toList]

/-- What the allocation reads of a pool, and the search that it makes. -/
theorem allocateIpv4_cidr (gateway : BitVec 32) (exclusions leased : List String) :
    allocateIpv4 Numerals.integer ⟨network.cidr, dottedDecimal gateway, exclusions⟩ leased =
      match firstFree network.address
          (fun candidate => (exclusions ++ [dottedDecimal gateway]).contains candidate || leased.contains candidate)
          1 (network.hosts - 2) with
      | some candidate => .ok candidate
      | none => .error ⟨.quotaExceeded, "No IPv4 address is available in the selected network."⟩ := by
  have least := network.least
  have most := network.most
  have read : Numerals.integer (toString network.length) = some (network.length : Int) :=
    Numerals.integer_toString (by omega) (by omega)
  simp only [allocateIpv4, split_cidr, List.headD_cons, List.getElem?_cons_succ, List.getElem?_cons_zero, Option.bind_some, read,
    strictIpv4_dottedDecimal]
  rw [if_neg (by rintro (nothing | short | long) <;> first | exact dottedDecimal_ne_empty _ nothing | omega), Int.toNat_natCast,
    if_neg (not_not.mpr network.aligned)]
  rfl

end Network

section
variable (network : Network) (gateway : BitVec 32) (exclusions leased : List (BitVec 32))

/-- Whether a candidate is taken, as the allocation asks it. -/
def taken (candidate : String) : Bool :=
  (exclusions.map dottedDecimal ++ [dottedDecimal gateway]).contains candidate || (leased.map dottedDecimal).contains candidate

theorem taken_iff (address : BitVec 32) : taken gateway exclusions leased (dottedDecimal address) = false ↔
    address ≠ gateway ∧ address ∉ exclusions ∧ address ∉ leased := by
  have named (others : List (BitVec 32)) : dottedDecimal address ∈ others.map dottedDecimal ↔ address ∈ others := by
    refine ⟨fun member => ?_, List.mem_map_of_mem⟩
    obtain ⟨other, inside, same⟩ := List.mem_map.mp member
    exact dottedDecimal_injective same ▸ inside
  have own : dottedDecimal address = dottedDecimal gateway ↔ address = gateway := ⟨dottedDecimal_injective, congrArg _⟩
  rw [← Bool.not_eq_true]
  simp only [taken, Bool.or_eq_true, List.contains_iff_mem, List.mem_append, List.mem_singleton, named, own, not_or]
  tauto

/-- The addresses that may be assigned, by their offsets. -/
theorem mem_assignable {address : BitVec 32} : address ∈ network.assignable gateway exclusions leased ↔
    ∃ offset, 1 ≤ offset ∧ offset < 1 + (network.hosts - 2) ∧ address = network.address + BitVec.ofNat 32 offset ∧
      taken gateway exclusions leased (dottedDecimal address) = false := by
  have split_ : address ∈ network.assignable gateway exclusions leased ↔
      (network.address < address ∧ address < network.broadcast) ∧ taken gateway exclusions leased (dottedDecimal address) = false := by
    rw [taken_iff]
    exact and_assoc.symm
  rw [split_, network.between_iff]
  constructor
  · rintro ⟨⟨offset, low, high, same⟩, free⟩
    exact ⟨offset, low, high, same, free⟩
  · rintro ⟨offset, low, high, same, free⟩
    exact ⟨⟨offset, low, high, same⟩, free⟩

/-- The allocation returns the least address that may be assigned, and reports an
    exhausted pool exactly when there is none. -/
theorem allocateIpv4_least :
    (∀ text, allocateIpv4 Numerals.integer ⟨network.cidr, dottedDecimal gateway, exclusions.map dottedDecimal⟩
        (leased.map dottedDecimal) = .ok text ↔
      ∃ address, text = dottedDecimal address ∧ IsLeast (network.assignable gateway exclusions leased) address) ∧
    ((∃ message, allocateIpv4 Numerals.integer ⟨network.cidr, dottedDecimal gateway, exclusions.map dottedDecimal⟩
        (leased.map dottedDecimal) = .error ⟨.quotaExceeded, message⟩) ↔ network.assignable gateway exclusions leased = ∅) := by
  have searched := network.allocateIpv4_cidr gateway (exclusions.map dottedDecimal) (leased.map dottedDecimal)
  change _ = match firstFree network.address (taken gateway exclusions leased) 1 (network.hosts - 2) with
    | some candidate => Except.ok candidate
    | none => Except.error (DomainError.mk .quotaExceeded "No IPv4 address is available in the selected network.") at searched
  rw [searched]
  cases search : firstFree network.address (taken gateway exclusions leased) 1 (network.hosts - 2) with
  | some candidate =>
    obtain ⟨offset, low, high, rfl, free, before⟩ := firstFree_some search
    have least : IsLeast (network.assignable gateway exclusions leased) (network.address + BitVec.ofNat 32 offset) := by
      refine ⟨(mem_assignable ..).mpr ⟨offset, low, high, rfl, free⟩, fun other member => ?_⟩
      obtain ⟨place, from_, until_, rfl, untaken⟩ := (mem_assignable ..).mp member
      have many := network.hosts_ge
      rw [BitVec.le_def, network.add_toNat (by omega), network.add_toNat (by omega)]
      by_contra earlier
      rw [before place from_ (by omega)] at untaken
      cases untaken
    refine ⟨fun text => ⟨fun same => ⟨_, (Except.ok.inj same).symm, least⟩, ?_⟩, ?_⟩
    · rintro ⟨address, rfl, also⟩
      rw [BitVec.le_antisymm (least.2 also.1) (also.2 least.1)]
    · refine iff_of_false (by rintro ⟨message, impossible⟩; cases impossible) fun empty => ?_
      rw [empty] at least
      exact least.1
  | none =>
    have busy := firstFree_none search
    have empty : network.assignable gateway exclusions leased = ∅ := by
      refine Set.eq_empty_iff_forall_notMem.mpr fun address member => ?_
      obtain ⟨offset, low, high, rfl, free⟩ := (mem_assignable ..).mp member
      rw [busy offset low high] at free
      cases free
    refine ⟨fun text => iff_of_false (fun impossible => nomatch impossible) ?_, iff_of_true ⟨_, rfl⟩ empty⟩
    rintro ⟨address, -, least⟩
    rw [empty] at least
    exact least.1

end

end ControlPlane.Ipv4Allocation
