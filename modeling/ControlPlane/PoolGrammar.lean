import ControlPlane.Ipv4Allocation

/-!
Which texts the allocation takes for a pool. The octets are read strictly and the
prefix length by `Number`, from the part between the first two slashes; the create
command reads the prefix length in the same way once more.
-/
namespace ControlPlane.PoolGrammar
open ControlPlane.Tables ControlPlane.Texts ControlPlane.Domain ControlPlane.Commands ControlPlane.Acceptance ControlPlane.ControlSchema ControlPlane.Transactions
open ControlPlane.Ipv4Allocation

/-! ### The grammar -/

/-- Four octets, a slash and a prefix length that leaves no host bits. -/
def IsPool (cidr : String) (length : Nat) : Prop :=
  ∃ a b c d : Nat, (a < 256 ∧ b < 256 ∧ c < 256 ∧ d < 256) ∧ (1 ≤ length ∧ length ≤ 30) ∧
    (((a * 256 + b) * 256 + c) * 256 + d) % 2 ^ (32 - length) = 0 ∧
    cidr = toString a ++ "." ++ toString b ++ "." ++ toString c ++ "." ++ toString d ++ "/" ++ toString length

/-- The octets of an address, one after the other. -/
theorem dottedDecimal_octets {address : BitVec 32} {a b c d : Nat} (small : a < 256 ∧ b < 256 ∧ c < 256 ∧ d < 256)
    (number : address.toNat = ((a * 256 + b) * 256 + c) * 256 + d) :
    dottedDecimal address = toString a ++ "." ++ toString b ++ "." ++ toString c ++ "." ++ toString d := by
  have one : address.toNat / 2 ^ 24 % 256 = a := by omega
  have two : address.toNat / 2 ^ 16 % 256 = b := by omega
  have three : address.toNat / 2 ^ 8 % 256 = c := by omega
  have four : address.toNat / 2 ^ 0 % 256 = d := by omega
  simp only [dottedDecimal, List.map_cons, List.map_nil, octet_toNat, one, two, three, four, String.intercalate_cons_cons,
    String.intercalate_singleton, String.append_assoc]

/-- The text of a network is a pool, and every pool is the text of a network. -/
theorem isPool_iff {cidr : String} {length : Nat} : IsPool cidr length ↔ ∃ network : Network, network.length = length ∧ cidr = network.cidr := by
  constructor
  · rintro ⟨a, b, c, d, small, ⟨least, most⟩, aligned, rfl⟩
    have number : (BitVec.ofNat 32 (((a * 256 + b) * 256 + c) * 256 + d)).toNat = ((a * 256 + b) * 256 + c) * 256 + d :=
      Nat.mod_eq_of_lt (by omega)
    have masked : BitVec.ofNat 32 (((a * 256 + b) * 256 + c) * 256 + d) &&& BitVec.ofNat 32 (2 ^ (32 - length) - 1) = 0 := by
      have hosts : 2 ^ (32 - length) - 1 < 2 ^ 32 :=
        lt_of_lt_of_le (Nat.sub_lt (Nat.two_pow_pos _) (by decide)) (Nat.pow_le_pow_right (by decide) (Nat.sub_le _ _))
      refine BitVec.eq_of_toNat_eq ?_
      rw [BitVec.toNat_and, number, BitVec.toNat_ofNat, Nat.mod_eq_of_lt hosts, Nat.and_two_pow_sub_one_eq_mod, aligned]
      rfl
    refine ⟨⟨_, length, least, most, masked⟩, rfl, ?_⟩
    rw [Network.cidr, dottedDecimal_octets small number]
  · rintro ⟨network, rfl, rfl⟩
    have bound := network.address.isLt
    have number : network.address.toNat = ((network.address.toNat / 2 ^ 24 * 256 + network.address.toNat / 2 ^ 16 % 256) * 256 +
        network.address.toNat / 2 ^ 8 % 256) * 256 + network.address.toNat % 256 := by omega
    have small : network.address.toNat / 2 ^ 24 < 256 ∧ network.address.toNat / 2 ^ 16 % 256 < 256 ∧
        network.address.toNat / 2 ^ 8 % 256 < 256 ∧ network.address.toNat % 256 < 256 := by omega
    refine ⟨_, _, _, _, small, ⟨network.least, network.most⟩, ?_, ?_⟩
    · rw [← number]
      exact Nat.mod_eq_zero_of_dvd network.hosts_dvd_address
    · rw [Network.cidr, dottedDecimal_octets small number]

/-! ### What the allocation reads -/

/-- A network as the allocation reads it from a text: the part before the first slash,
    and the number that the part after it is. -/
def Reads (cidr : String) (network : Network) : Prop :=
  (split '/' cidr).head? = some (dottedDecimal network.address) ∧
    ((split '/' cidr)[1]?).bind Numerals.integer = some (network.length : Int)

/-- Every text that is rejected is rejected as a pool. -/
def Rejected (cidr : String) : Prop :=
  ∀ (gateway : BitVec 32) (exclusions leased : List String), ∃ message,
    allocateIpv4 Numerals.integer ⟨cidr, dottedDecimal gateway, exclusions⟩ leased = .error ⟨.validationFailed, message⟩

/-- A text is taken for a pool: it is searched for an address. -/
def Treated (cidr : String) : Prop :=
  ∀ (gateway : BitVec 32) (exclusions leased : List String) (message : String),
    allocateIpv4 Numerals.integer ⟨cidr, dottedDecimal gateway, exclusions⟩ leased ≠ .error ⟨.validationFailed, message⟩

theorem reads_cidr (network : Network) : Reads network.cidr network := by
  have least := network.least
  have most := network.most
  rw [Reads, network.split_cidr]
  refine ⟨rfl, ?_⟩
  rw [List.getElem?_cons_succ, List.getElem?_cons_zero, Option.bind_some, Numerals.integer_toString (by omega) (by omega)]

/-- A text that is read as a network is taken for a pool. -/
theorem treated_of_reads {cidr : String} {network : Network} (reads : Reads cidr network) : Treated cidr := by
  intro gateway exclusions leased message
  obtain ⟨first, second⟩ := reads
  have least := network.least
  have most := network.most
  simp only [allocateIpv4, List.headD_eq_head?_getD, first, second, Option.getD_some, strictIpv4_dottedDecimal]
  rw [if_neg (by rintro (nothing | short | long) <;> first | exact dottedDecimal_ne_empty _ nothing | omega), Int.toNat_natCast,
    if_neg (not_not.mpr network.aligned)]
  split <;> exact fun impossible => by cases impossible

/-- Any other text is rejected. -/
theorem rejected_of_not_reads {cidr : String} (unread : ∀ network, ¬ Reads cidr network) : Rejected cidr := by
  intro gateway exclusions leased
  simp only [allocateIpv4, strictIpv4_dottedDecimal]
  split
  next => exact ⟨_, rfl⟩
  next length read =>
    split
    next => exact ⟨_, rfl⟩
    next bounds =>
      obtain ⟨named, least, most⟩ := by simpa only [not_or, Int.not_lt] using bounds
      cases quad : strictIpv4 ((split '/' cidr).headD "") with
      | none => exact ⟨_, rfl⟩
      | some address =>
        dsimp only
        split
        next => exact ⟨_, rfl⟩
        next aligned =>
          refine absurd ?_ (unread ⟨address, length.toNat, by omega, by omega, not_not.mp aligned⟩)
          refine ⟨?_, read.trans (congrArg some (Int.toNat_of_nonneg (by omega)).symm)⟩
          have spelled := dottedDecimal_strictIpv4 quad
          cases parts : split '/' cidr with
          | nil =>
            rw [parts] at named
            exact absurd rfl named
          | cons first rest =>
            rw [parts] at spelled
            exact congrArg some spelled

/-! ### The claim -/

/-- The prefix length of every create command that is built from the pool. -/
def Commanded (cidr : String) (length : Nat) : Prop :=
  ∀ (host : Host) (draws : Draws) (command : CreateInstanceCommand) (context : AcceptanceContext) (address : String)
    (records : AcceptanceRecords), host.number = Numerals.integer → context.network.ipv4Cidr = cidr →
    buildAcceptanceRecords host draws command context address = .ok records →
    ∃ data, records.event.data = .create data ∧ data.ipv4.prefixLength = length ∧ records.lease.prefixLength = length

/-- The texts that are taken for a pool are the pools, and the command carries their prefix length. -/
structure Faithful (cidr : String) : Prop where
  treated : ∀ length, IsPool cidr length → Treated cidr ∧ Commanded cidr length
  rejected : (∀ length, ¬ IsPool cidr length) → Rejected cidr

/-- A text that is read as a network without being its text: the prefix length is spelled in
    another way, or a second slash follows it. -/
def Loose (cidr : String) : Prop := ∃ network : Network, Reads cidr network ∧ cidr ≠ network.cidr

theorem reads_unique {cidr : String} {network other : Network} (reads : Reads cidr network) (also : Reads cidr other) : network = other := by
  have address : network.address = other.address := dottedDecimal_injective (Option.some.inj (reads.1.symm.trans also.1))
  have length : network.length = other.length := by exact_mod_cast Option.some.inj (reads.2.symm.trans also.2)
  cases network
  cases other
  cases address
  cases length
  rfl

theorem commanded_cidr (network : Network) : Commanded network.cidr network.length := by
  intro host draws command context address records reader pool built
  obtain ⟨dnsServers, -, rest⟩ := bind_ok built
  obtain ⟨sshPublicKeys, -, done⟩ := bind_ok rest
  obtain rfl := Except.ok.inj done
  have read : (((split '/' context.network.ipv4Cidr)[1]?).bind host.number).getD 0 = (network.length : Int) := by
    rw [pool, reader, (reads_cidr network).2]
    rfl
  exact ⟨_, rfl, read, read⟩

theorem Loose.unfaithful {cidr : String} (loose : Loose cidr) : ¬ Faithful cidr := by
  intro faithful
  obtain ⟨network, reads, differs⟩ := loose
  have unpooled : ∀ length, ¬ IsPool cidr length := by
    intro length pooled
    obtain ⟨other, -, rfl⟩ := isPool_iff.mp pooled
    rw [reads_unique reads (reads_cidr other)] at differs
    exact differs rfl
  obtain ⟨message, refused⟩ := faithful.rejected unpooled 0 [] []
  exact treated_of_reads reads 0 [] [] message refused

/-- Exactly when a text is treated as the grammar says. -/
theorem faithful_iff (cidr : String) : Faithful cidr ↔ ¬ Loose cidr := by
  constructor
  · exact fun faithful loose => loose.unfaithful faithful
  · intro strict
    refine ⟨fun length pooled => ?_, fun unpooled => rejected_of_not_reads fun network reads => ?_⟩
    · obtain ⟨network, rfl, rfl⟩ := isPool_iff.mp pooled
      exact ⟨treated_of_reads (reads_cidr network), commanded_cidr network⟩
    · by_cases same : cidr = network.cidr
      · exact unpooled network.length (isPool_iff.mpr ⟨network, rfl, same⟩)
      · exact strict ⟨network, reads, same⟩

/-! ### Sample pools -/

/-- The network `10.0.0.0/24`. -/
def sampleNetwork : Network := ⟨0x0a000000#32, 24, by decide, by decide, by decide⟩

theorem reads_spelling {cidr second : String} {rest : List String} (parts : split '/' cidr = "10.0.0.0" :: second :: rest)
    (digits : second.toList ≠ [] ∧ second.toList.all isDigit = true) (number : digitsValue second.toList = 24) :
    Reads cidr sampleNetwork := by
  rw [Reads, parts]
  refine ⟨by rfl, ?_⟩
  rw [List.getElem?_cons_succ, List.getElem?_cons_zero, Option.bind_some,
    Numerals.integer_digits digits.1 (List.all_eq_true.mp digits.2) (by omega) (by omega), number]
  rfl

/-- A leading zero, and what follows a second slash, are accepted. -/
theorem loose_pools : ¬ Faithful "10.0.0.0/024" ∧ ¬ Faithful "10.0.0.0/24/extra" := by
  constructor
  · refine Loose.unfaithful ⟨sampleNetwork, @reads_spelling _ "024" [] ?_ ?_ ?_, ?_⟩
    all_goals decide
  · refine Loose.unfaithful ⟨sampleNetwork, @reads_spelling _ "24" ["extra"] ?_ ?_ ?_, ?_⟩
    all_goals decide

end ControlPlane.PoolGrammar
