import IPv6Suite.AddrExpiry
import IPv6Suite.Lib.ErasingLoop

namespace IPv6Suite

open Lib

/-- The key and the lifetimes of an address, which a removal moves from place to place. -/
abbrev AddressValue := IPv6Address × BitVec 32 × BitVec 32

/-- Whether the stored lifetime has run out -/
def AddressValue.expired (v : AddressValue) : Bool := v.2.1 = 0

theorem InterfaceAddress.expired_value {a : InterfaceAddress} : AddressValue.expired a.value = true ↔ a.storedLifetime = 0 :=
  decide_eq_true_iff

namespace IPv6InterfaceData

/-- What is stored, without the flags of lifetimes just updated -/
def values (data : IPv6InterfaceData) : List AddressValue := data.inetAddrs.map (·.value)

variable {data data' : IPv6InterfaceData}

theorem filter_key_eq_eraseIdx {vs : List AddressValue} {index : Nat} {v : AddressValue}
    (distinct : (vs.map (·.1.addr)).Nodup) (located : vs[index]? = some v) :
    vs.filter (·.1 ≠ v.1) = vs.eraseIdx index := by
  induction vs generalizing index with
  | nil => cases located
  | cons w rest ih =>
      obtain ⟨apart, distinct'⟩ := List.nodup_cons.mp distinct
      have other (u : AddressValue) (inside : u ∈ rest) : w.1 ≠ u.1 := fun same =>
        apart (List.mem_map.mpr ⟨u, inside, congrArg (·.addr) same.symm⟩)
      cases index with
      | zero =>
          cases located
          rw [List.filter_cons_of_neg (by simp), List.eraseIdx_cons_zero]
          exact List.filter_eq_self.mpr fun u inside => decide_eq_true (other u inside).symm
      | succ index =>
          rw [List.getElem?_cons_succ] at located
          have kept := other v (List.mem_of_getElem? located)
          rw [List.filter_cons_of_pos (by simpa using kept), ih distinct' located, List.eraseIdx_cons_succ]

/-- A removal by the key of one of the addresses takes that one out. -/
theorem removeAddress_stored {a : InterfaceAddress} (distinct : data.Distinct) (inside : a ∈ data.inetAddrs) :
    ∃ data', data.removeAddress a.toIPv6Address = .ok data' ∧ data'.tentativeAddrs = data.tentativeAddrs ∧
      data'.values = data.values.filter (·.1 ≠ a.toIPv6Address) := by
  have assigned : data.addrAssigned a.addr = true := List.any_eq_true.mpr ⟨a, inside, by simp⟩
  have shorter : (data.inetAddrs.filter (·.toIPv6Address ≠ a.toIPv6Address)).length < data.inetAddrs.length :=
    List.length_filter_lt_length_iff_exists.mpr ⟨a, inside, by simp⟩
  obtain ⟨inetAddrs, removed⟩ : ∃ inetAddrs, removeAddrFromArray data.inetAddrs a.toIPv6Address = .ok inetAddrs := by
    unfold removeAddrFromArray
    exact ⟨_, if_pos shorter⟩
  refine ⟨{ data with inetAddrs }, ?_, rfl, ?_⟩
  · rw [removeAddress, assert_pos assigned, removed]
    rfl
  · have kept := removeAddrFromArray_value distinct removed
    rw [values, values, kept, List.filter_map]
    rfl

theorem distinct_values : data.Distinct ↔ (data.values.map (·.1.addr)).Nodup := by
  rw [values, List.map_map]
  rfl

theorem invalidateFrom_values (rounds index : Nat) (distinct : data.Distinct) :
    ∃ data', invalidateFrom rounds index data = .ok data' ∧ data'.tentativeAddrs = data.tentativeAddrs ∧
      data'.values = ErasingLoop.eraseFrom AddressValue.expired rounds index data.values := by
  induction rounds generalizing index data with
  | zero => exact ⟨data, rfl, rfl, rfl⟩
  | succ rounds ih =>
      unfold invalidateFrom ErasingLoop.eraseFrom
      have value : data.values[index]? = data.inetAddrs[index]?.map (·.value) := by
        rw [values, List.getElem?_map]
      rw [value]
      cases found : data.inetAddrs[index]? with
      | none => exact ⟨data, rfl, rfl, rfl⟩
      | some a =>
          rw [found] at value
          dsimp only [Option.map_some]
          by_cases zero : a.storedLifetime = 0
          · obtain ⟨middle, removed, tentative, left⟩ := removeAddress_stored distinct (List.mem_of_getElem? found)
            have erased : data.values.filter (·.1 ≠ a.toIPv6Address) = data.values.eraseIdx index :=
              filter_key_eq_eraseIdx (distinct_values.mp distinct) value
            rw [erased] at left
            have distinct' : middle.Distinct := by
              rw [distinct_values, left]
              exact (distinct_values.mp distinct).sublist ((List.eraseIdx_sublist _ _).map _)
            obtain ⟨data', rest, tentative', values'⟩ := ih _ distinct'
            refine ⟨data', ?_, tentative'.trans tentative, ?_⟩
            · rw [if_pos zero, removed]
              exact rest
            · rw [values', left, if_pos (InterfaceAddress.expired_value.mpr zero)]
          · obtain ⟨data', rest, tentative, values'⟩ := ih _ distinct
            refine ⟨data', ?_, tentative, ?_⟩
            · rw [if_neg zero]
              exact rest
            · rw [values', if_neg fun expired => zero (InterfaceAddress.expired_value.mp expired)]

theorem invalidateAddresses_values (distinct : data.Distinct) :
    ∃ data', data.invalidateAddresses = .ok data' ∧ data'.tentativeAddrs = data.tentativeAddrs ∧
      data'.values = data.values.take 1 ++ ErasingLoop.sweep AddressValue.expired (data.values.drop 1) := by
  obtain ⟨data', done, tentative, values'⟩ := invalidateFrom_values data.inetAddrs.length 1 distinct
  refine ⟨data', done, tentative, values'.trans ?_⟩
  cases stored : data.values with
  | nil =>
      rw [ErasingLoop.eraseFrom_past _ (by simp)]
      rfl
  | cons first rest =>
      have count : rest.length ≤ data.inetAddrs.length := by
        have length := congrArg List.length stored
        simp only [values, List.length_map, List.length_cons] at length
        omega
      exact ErasingLoop.eraseFrom_append _ [first] count

theorem values_configured (data : IPv6InterfaceData) : data.configured.map (·.value) = data.values.drop 1 := by
  rw [configured, values, List.map_drop]

theorem configured_expired (data : IPv6InterfaceData) :
    (∀ a ∈ data.configured, a.storedLifetime ≠ 0) ↔ ∀ v ∈ data.values.drop 1, AddressValue.expired v = false := by
  rw [← values_configured]
  simp only [List.mem_map, forall_exists_index, and_imp, forall_apply_eq_imp_iff₂, ← Bool.not_eq_true,
    InterfaceAddress.expired_value, ne_eq]

/-- No two neighbours among the addresses that can expire have run out. -/
def Scattered (data : IPv6InterfaceData) : Prop :=
  data.configured.IsChain fun a b => ¬ (a.storedLifetime = 0 ∧ b.storedLifetime = 0)

theorem minValidLifetime_ok (alive : ∀ a ∈ data.configured, a.storedLifetime ≠ 0) :
    ∃ minimum, data.minValidLifetime = .ok minimum ∧ minimum ≠ 0 := by
  unfold minValidLifetime
  change ∀ a ∈ data.inetAddrs.drop 1, a.storedLifetime ≠ 0 at alive
  generalize data.inetAddrs.drop 1 = addrs at alive
  have infinite : validLifetimeInfinity ≠ 0 := by decide
  revert infinite
  generalize validLifetimeInfinity = start
  induction addrs generalizing start with
  | nil => exact fun nonzero => ⟨start, rfl, nonzero⟩
  | cons a rest ih =>
      intro nonzero
      obtain ⟨first, others⟩ := List.forall_mem_cons.mp alive
      have positive : 0 < a.storedLifetime := (BitVec.pos_iff_ne_zero _).mpr first
      rw [List.foldlM_cons, assert_pos positive]
      refine ih others _ ?_
      split
      · exact first
      · exact nonzero

/-- What a call of `invalidateAddresses` is for. -/
structure Invalidated (data data' : IPv6InterfaceData) : Prop where
  expired : ∀ a ∈ data'.configured, a.storedLifetime ≠ 0
  alive : data'.values.filter (fun v => !AddressValue.expired v) = data.values.filter fun v => !AddressValue.expired v

theorem scattered_iff (data : IPv6InterfaceData) : data.Scattered ↔
    (data.values.drop 1).IsChain fun v w => ¬ (AddressValue.expired v = true ∧ AddressValue.expired w = true) := by
  rw [← values_configured, List.isChain_map]
  simp only [InterfaceAddress.expired_value]
  rfl

theorem invalidated_iff (distinct : data.Distinct) :
    (∃ data', data.invalidateAddresses = .ok data' ∧ Invalidated data data') ↔ data.Scattered := by
  obtain ⟨data', done, -, values'⟩ := invalidateAddresses_values distinct
  have first : (data.values.take 1).length = min 1 data.values.length := List.length_take
  have tail : data'.values.drop 1 = ErasingLoop.sweep AddressValue.expired (data.values.drop 1) := by
    rw [values']
    cases data.values with
    | nil => rfl
    | cons v rest => rfl
  have cleared : (∀ a ∈ data'.configured, a.storedLifetime ≠ 0) ↔ data.Scattered := by
    rw [configured_expired, tail, ErasingLoop.forall_sweep_iff, scattered_iff]
  constructor
  · rintro ⟨other, same, invalidated⟩
    rw [done] at same
    cases same
    exact cleared.mp invalidated.expired
  · intro scattered
    refine ⟨data', done, cleared.mpr scattered, ?_⟩
    rw [values', List.filter_append, ErasingLoop.filter_sweep, ← List.filter_append, List.take_append_drop]

end IPv6InterfaceData

namespace AddrConf

variable {s : AddrConf}

/-- After `invalidateAddresses` no address that has run out is left, the assertions of `minValidLifetime` hold and
every other address is still there. -/
structure Invalidated (s s' : AddrConf) : Prop where
  interfaces : List.Forall₂ IPv6InterfaceData.Invalidated s.interfaces s'.interfaces
  minimum : ∃ lifetime, s'.minValidLifetime = .ok lifetime

theorem mapM_forall₂ {α β : Type} {f : α → Exec β} {R : α → β → Prop} {xs : List α} :
    (∃ ys, xs.mapM f = .ok ys ∧ List.Forall₂ R xs ys) ↔ ∀ x ∈ xs, ∃ y, f x = .ok y ∧ R x y := by
  induction xs with
  | nil => exact ⟨fun _ x inside => absurd inside List.not_mem_nil, fun _ => ⟨[], rfl, .nil⟩⟩
  | cons x rest ih =>
      rw [List.forall_mem_cons, ← ih]
      constructor
      · rintro ⟨ys, done, related⟩
        rw [List.mapM_cons] at done
        obtain ⟨y, head, done⟩ := bind_eq_ok.mp done
        obtain ⟨others, tail, done⟩ := bind_eq_ok.mp done
        cases done
        obtain ⟨first, following⟩ := List.forall₂_cons.mp related
        exact ⟨⟨y, head, first⟩, others, tail, following⟩
      · rintro ⟨⟨y, head, first⟩, others, tail, following⟩
        refine ⟨y :: others, ?_, .cons first following⟩
        rw [List.mapM_cons, head, tail]
        rfl

theorem minValidLifetime_ok (alive : ∀ data ∈ s.interfaces, ∀ a ∈ data.configured, a.storedLifetime ≠ 0) :
    ∃ lifetime, s.minValidLifetime = .ok lifetime := by
  have folded : ∀ (l : List IPv6InterfaceData) (start : BitVec 32), start ≠ 0 →
      (∀ data ∈ l, ∀ a ∈ data.configured, a.storedLifetime ≠ 0) →
      ∃ lifetime, l.foldlM (fun (minLifetime : BitVec 32) (data : IPv6InterfaceData) => do
        let lifetime ← data.minValidLifetime
        Exec.assert (lifetime ≠ 0)
        return if lifetime < minLifetime then lifetime else minLifetime) start = (.ok lifetime : Exec (BitVec 32)) ∧
          lifetime ≠ 0 := by
    intro l
    induction l with
    | nil => exact fun start nonzero _ => ⟨start, rfl, nonzero⟩
    | cons data rest ih =>
        intro start nonzero alive
        obtain ⟨first, others⟩ := List.forall_mem_cons.mp alive
        obtain ⟨minimum, least, positive⟩ := IPv6InterfaceData.minValidLifetime_ok first
        rw [List.foldlM_cons, least, ok_bind, assert_pos positive]
        refine ih _ ?_ others
        split
        · exact positive
        · exact nonzero
  obtain ⟨lifetime, done, positive⟩ := folded s.interfaces validLifetimeInfinity (by decide) alive
  refine ⟨lifetime, ?_⟩
  rw [minValidLifetime, done, ok_bind, assert_pos positive]
  rfl

theorem invalidation_exact (distinct : s.Distinct) :
    (∃ s', s.invalidateAddresses = .ok s' ∧ Invalidated s s') ↔ ∀ data ∈ s.interfaces, data.Scattered := by
  have each : (∀ data ∈ s.interfaces, data.Scattered) ↔
      ∃ interfaces, s.interfaces.mapM IPv6InterfaceData.invalidateAddresses = .ok interfaces ∧
        List.Forall₂ IPv6InterfaceData.Invalidated s.interfaces interfaces := by
    rw [mapM_forall₂]
    refine forall₂_congr fun data inside => ?_
    obtain ⟨i, located⟩ := List.mem_iff_getElem?.mp inside
    exact (IPv6InterfaceData.invalidated_iff (distinct i data located)).symm
  rw [each]
  constructor
  · rintro ⟨s', done, invalidated⟩
    obtain ⟨interfaces, mapped, done⟩ := bind_eq_ok.mp done
    cases done
    exact ⟨interfaces, mapped, invalidated.interfaces⟩
  · rintro ⟨interfaces, mapped, related⟩
    refine ⟨{ s with interfaces }, ?_, related, minValidLifetime_ok fun data' inside => ?_⟩
    · rw [invalidateAddresses, mapped]
      rfl
    · obtain ⟨i, below, rfl⟩ := List.getElem_of_mem inside
      have invalidated := (List.forall₂_iff_get.mp related).2 i (by rw [related.length_eq]; exact below) below
      exact invalidated.expired

/-- An interface whose addresses after the first have the given lifetimes -/
def expiring (lifetimes : List (BitVec 32)) : AddrConf where
  interfaces := [{
    inetAddrs := ⟨⟨⟨0xFE800000, 0, 0, 1⟩, 64⟩, validLifetimeInfinity, validLifetimeInfinity, false⟩ ::
      lifetimes.mapIdx fun i lifetime => ⟨⟨⟨0x20010DB8, BitVec.ofNat 32 i, 0, 1⟩, 64⟩, lifetime, lifetime, false⟩
    tentativeAddrs := [] }]
  addrExpiryTmr := none
  now := 1

theorem distinct_single {data : IPv6InterfaceData} (only : s.interfaces = [data]) (distinct : data.Distinct) :
    s.Distinct := by
  intro i data' located
  rw [only] at located
  obtain ⟨below, rfl⟩ := List.getElem?_eq_some_iff.mp located
  simpa using distinct

theorem invalidation_apart : (expiring [0, 30, 0]).Distinct ∧
    ((∃ s', (expiring [0, 30, 0]).invalidateAddresses = .ok s' ∧ Invalidated (expiring [0, 30, 0]) s') ↔
      ∀ data ∈ (expiring [0, 30, 0]).interfaces, data.Scattered) := by
  have distinct : (expiring [0, 30, 0]).Distinct := distinct_single rfl (by unfold IPv6InterfaceData.Distinct; decide)
  exact ⟨distinct, invalidation_exact distinct⟩

/-- Of two addresses of one advertisement, which run out together, the second stays and fails the assertion. -/
theorem invalidation_passes_over : ¬ ∀ s : AddrConf, s.Distinct →
    ∃ s', s.invalidateAddresses = .ok s' ∧ Invalidated s s' := by
  intro claimed
  have distinct : (expiring [0, 0]).Distinct := distinct_single rfl (by unfold IPv6InterfaceData.Distinct; decide)
  obtain ⟨s', done, invalidated⟩ := claimed (expiring [0, 0]) distinct
  obtain ⟨lifetime, minimum⟩ := invalidated.minimum
  have failed : (expiring [0, 0]).invalidateAddresses >>= minValidLifetime = .error .assertFailed := by
    decide +kernel
  rw [done, ok_bind, minimum] at failed
  cases failed

def removeAddress (addr : IPv6Address) (ifIndex : Nat) (s : AddrConf) : Exec AddrConf := do
  let data ← Exec.deref .nullDeref s.interfaces[ifIndex]?
  let data ← data.removeAddress addr
  return { s with interfaces := s.interfaces.set ifIndex data }

/-- `RoutingTable6::removeAddress(const ipv6_addr&, ifIndex)`: the key is the one of a host. -/
def removeHostAddress (addr : Ipv6Addr) (ifIndex : Nat) (s : AddrConf) : Exec AddrConf :=
  s.removeAddress (.host addr) ifIndex

/-- The entry for `addr` is gone and everything else is as it was. -/
def Removed (addr : Ipv6Addr) (ifIndex : Nat) (data : IPv6InterfaceData) (s s' : AddrConf) : Prop :=
  ∃ data' : IPv6InterfaceData, s' = { s with interfaces := s.interfaces.set ifIndex data' } ∧
    data'.tentativeAddrs = data.tentativeAddrs ∧ data'.values = data.values.filter (·.1.addr ≠ addr)

theorem removal_exact {data : IPv6InterfaceData} {ifIndex : Nat} {addr : Ipv6Addr}
    (located : s.interfaces[ifIndex]? = some data) (distinct : data.Distinct)
    (assigned : data.addrAssigned addr = true) :
    (∃ s', s.removeHostAddress addr ifIndex = .ok s' ∧ Removed addr ifIndex data s s') ↔
      ∀ a ∈ data.inetAddrs, a.addr = addr → a.prefixLength = 128 := by
  obtain ⟨a, inside, same⟩ := List.any_eq_true.mp assigned
  obtain rfl : a.addr = addr := by simpa using same
  have only (b : InterfaceAddress) (member : b ∈ data.inetAddrs) (equal : b.addr = a.addr) : b = a :=
    List.inj_on_of_nodup_map distinct member inside equal
  constructor
  · rintro ⟨s', done, -⟩ b member equal
    simp only [removeHostAddress, removeAddress, located, deref_some, ok_bind] at done
    obtain ⟨data', removed, -⟩ := bind_eq_ok.mp done
    simp only [IPv6InterfaceData.removeAddress, bind_eq_ok] at removed
    obtain ⟨-, -, inetAddrs, removed, -⟩ := removed
    unfold IPv6InterfaceData.removeAddrFromArray at removed
    dsimp only at removed
    split at removed
    · rename_i shorter
      obtain ⟨c, found, key⟩ := List.length_filter_lt_length_iff_exists.mp shorter
      have host : c.toIPv6Address = IPv6Address.host a.addr := by
        by_contra other
        exact key (decide_eq_true other)
      rw [only b member equal, ← only c found (congrArg (·.addr) host)]
      exact congrArg (·.prefixLength) host
    · cases removed
  · intro host
    have key : IPv6Address.host a.addr = a.toIPv6Address := by
      rw [IPv6Address.host_eq, ← host a inside rfl]
    obtain ⟨data', removed, tentative, values'⟩ := IPv6InterfaceData.removeAddress_stored distinct inside
    refine ⟨{ s with interfaces := s.interfaces.set ifIndex data' }, ?_, data', rfl, tentative, ?_⟩
    · simp only [removeHostAddress, removeAddress, located, key, removed, deref_some, ok_bind, pure_eq_ok]
    · rw [values']
      refine List.filter_congr fun v member => decide_eq_decide.mpr (not_congr ?_)
      obtain ⟨b, inArray, rfl⟩ := List.mem_map.mp member
      exact ⟨fun equal => congrArg (·.addr) equal, fun equal => congrArg (·.toIPv6Address) (only b inArray equal)⟩

/-- An interface with one global address of the given prefix length -/
def assignedWith (prefixLength : Nat) : IPv6InterfaceData where
  inetAddrs := [⟨⟨⟨0xFE800000, 0, 0, 1⟩, 64⟩, validLifetimeInfinity, validLifetimeInfinity, false⟩,
    ⟨⟨⟨0x20010DB8, 0, 0, 1⟩, prefixLength⟩, 30, 30, false⟩]
  tentativeAddrs := []

theorem distinct_assignedWith (prefixLength : Nat) : (assignedWith prefixLength).Distinct := by
  change (List.map (·.addr) (assignedWith 0).inetAddrs).Nodup
  decide

theorem removal_host : (assignedWith 128).Distinct ∧
    ((∃ s', (⟨[assignedWith 128], none, 1⟩ : AddrConf).removeHostAddress ⟨0x20010DB8, 0, 0, 1⟩ 0 = .ok s' ∧
        Removed ⟨0x20010DB8, 0, 0, 1⟩ 0 (assignedWith 128) ⟨[assignedWith 128], none, 1⟩ s') ↔
      ∀ a ∈ (assignedWith 128).inetAddrs, a.addr = ⟨0x20010DB8, 0, 0, 1⟩ → a.prefixLength = 128) :=
  ⟨distinct_assignedWith 128, removal_exact rfl (distinct_assignedWith 128) (by decide)⟩

/-- An address assigned with its prefix is not found, and the position erased is the end. -/
theorem removal_past_end : ¬ ∀ (s : AddrConf) (data : IPv6InterfaceData) (ifIndex : Nat) (addr : Ipv6Addr),
    s.interfaces[ifIndex]? = some data → data.Distinct → data.addrAssigned addr = true →
    ∃ s', s.removeHostAddress addr ifIndex = .ok s' ∧ Removed addr ifIndex data s s' := by
  intro claimed
  obtain ⟨s', done, -⟩ := claimed ⟨[assignedWith 64], none, 1⟩ (assignedWith 64) 0 ⟨0x20010DB8, 0, 0, 1⟩ rfl
    (distinct_assignedWith 64) (by decide)
  have failed : (⟨[assignedWith 64], none, 1⟩ : AddrConf).removeHostAddress ⟨0x20010DB8, 0, 0, 1⟩ 0 =
      .error .outOfBounds := by decide +kernel
  rw [failed] at done
  cases done

end AddrConf

end IPv6Suite
