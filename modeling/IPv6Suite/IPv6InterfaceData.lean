import IPv6Suite.Lib.Exec
import IPv6Suite.NDEntry

namespace IPv6Suite

open Lib

/-- An `IPv6Address` with its lifetimes and the flag of a lifetime just updated. -/
structure InterfaceAddress extends IPv6Address where
  storedLifetime : BitVec 32
  preferredLifetime : BitVec 32
  updated : Bool
deriving DecidableEq

namespace InterfaceAddress

def setStoredLifetimeAndUpdate (validLifetime : BitVec 32) (a : InterfaceAddress) :
    InterfaceAddress :=
  { a with storedLifetime := validLifetime, updated := true }

def setPreferredLifetime (seconds : BitVec 32) (a : InterfaceAddress) : InterfaceAddress :=
  { a with preferredLifetime := seconds }

/-- The copy constructor resets the flag. -/
def copy (obj : InterfaceAddress) : InterfaceAddress := { obj with updated := false }

/-- `operator=` leaves the flag of the address assigned to. -/
def assign (dest obj : InterfaceAddress) : InterfaceAddress := { obj with updated := dest.updated }

/-- The body of the loop in `elapseLifetimes`. -/
def elapse (seconds : BitVec 32) (a : InterfaceAddress) : InterfaceAddress :=
  if a.storedLifetime = validLifetimeInfinity then a
  else if a.updated then { a with updated := false }
  else
    { a with
      storedLifetime := if a.storedLifetime < seconds then 0 else a.storedLifetime - seconds
      preferredLifetime :=
        if seconds ≤ a.preferredLifetime then 0 else a.preferredLifetime - seconds }

/-- What a copy and an assignment take over. -/
def value (a : InterfaceAddress) : IPv6Address × BitVec 32 × BitVec 32 :=
  (a.toIPv6Address, a.storedLifetime, a.preferredLifetime)

@[simp] theorem value_copy (a : InterfaceAddress) : a.copy.value = a.value := rfl

@[simp] theorem value_assign (dest a : InterfaceAddress) : (dest.assign a).value = a.value := rfl

@[simp] theorem addr_elapse (seconds : BitVec 32) (a : InterfaceAddress) :
    (a.elapse seconds).toIPv6Address = a.toIPv6Address := by
  unfold elapse
  split_ifs <;> rfl

theorem elapse_updated {seconds : BitVec 32} {a : InterfaceAddress} (updated : a.updated = true) :
    (a.elapse seconds).storedLifetime = a.storedLifetime := by
  unfold elapse
  split_ifs <;> rfl

theorem elapse_stored {seconds : BitVec 32} {a : InterfaceAddress}
    (finite : a.storedLifetime ≠ validLifetimeInfinity) (settled : a.updated = false) :
    (a.elapse seconds).storedLifetime.toNat = a.storedLifetime.toNat - seconds.toNat := by
  unfold elapse
  rw [if_neg finite, if_neg (by simp [settled])]
  dsimp only
  have bound := a.storedLifetime.isLt
  split
  · rename_i less
    rw [BitVec.lt_def] at less
    simp only [BitVec.ofNat_eq_ofNat, BitVec.toNat_ofNat]
    omega
  · rename_i enough
    rw [BitVec.lt_def] at enough
    rw [BitVec.toNat_sub_of_le (BitVec.le_def.mpr (Nat.le_of_not_lt enough))]

theorem elapse_finite {seconds : BitVec 32} {a : InterfaceAddress}
    (finite : (a.elapse seconds).storedLifetime ≠ validLifetimeInfinity) :
    a.storedLifetime ≠ validLifetimeInfinity := by
  intro infinite
  unfold elapse at finite
  rw [if_pos infinite] at finite
  exact finite infinite

end InterfaceAddress

/-- The addresses of an interface. The one at index 0 is its link local address, which
does not expire. -/
structure IPv6InterfaceData where
  inetAddrs : List InterfaceAddress
  tentativeAddrs : List InterfaceAddress
deriving DecidableEq

namespace IPv6InterfaceData

def addrAssigned (data : IPv6InterfaceData) (addr : Ipv6Addr) : Bool :=
  data.inetAddrs.any (·.addr = addr)

def tentativeAddrAssigned (data : IPv6InterfaceData) (addr : Ipv6Addr) : Bool :=
  data.tentativeAddrs.any (·.addr = addr)

/-- `addrs.erase(std::remove(begin, end, addr))`: the others move down by assignment, and
the one element at the new end is erased; there is none if nothing was removed. An
`addr` inside the array reads the same throughout when it occurs once. -/
def removeAddrFromArray (addrs : List InterfaceAddress) (addr : IPv6Address) :
    Exec (List InterfaceAddress) :=
  let kept := addrs.filter (·.toIPv6Address ≠ addr)
  if kept.length < addrs.length then
    .ok (addrs.zipWith InterfaceAddress.assign kept ++ addrs.drop (kept.length + 1))
  else .error .outOfBounds

def removeAddress (data : IPv6InterfaceData) (addr : IPv6Address) : Exec IPv6InterfaceData := do
  Exec.assert (data.addrAssigned addr.addr = true)
  let inetAddrs ← removeAddrFromArray data.inetAddrs addr
  return { data with inetAddrs }

def removeTentativeAddress (data : IPv6InterfaceData) (addr : IPv6Address) :
    Exec IPv6InterfaceData := do
  let tentativeAddrs ← removeAddrFromArray data.tentativeAddrs addr
  return { data with tentativeAddrs }

def elapseLifetimes (data : IPv6InterfaceData) (seconds : BitVec 32) : IPv6InterfaceData :=
  { data with
    inetAddrs := data.inetAddrs.take 1 ++ (data.inetAddrs.drop 1).map (·.elapse seconds) }

/-- The shortest lifetime from index 1 on, infinity if there is none. -/
def minValidLifetime (data : IPv6InterfaceData) : Exec (BitVec 32) :=
  (data.inetAddrs.drop 1).foldlM
    (fun minLifetime a => do
      Exec.assert (0 < a.storedLifetime)
      return if a.storedLifetime ≤ minLifetime then a.storedLifetime else minLifetime)
    validLifetimeInfinity

/-- The inner loop of `invalidateAddresses`. The index also moves on after a removal;
as it grows, `rounds` of the number of addresses reach the end. -/
def invalidateFrom : (rounds addrIndex : Nat) → IPv6InterfaceData → Exec IPv6InterfaceData
  | 0, _, data => .ok data
  | rounds + 1, addrIndex, data =>
      match data.inetAddrs[addrIndex]? with
      | none => .ok data
      | some a => do
          let data ← (if a.storedLifetime = 0 then data.removeAddress a.toIPv6Address
            else .ok data)
          invalidateFrom rounds (addrIndex + 1) data

def invalidateAddresses (data : IPv6InterfaceData) : Exec IPv6InterfaceData :=
  invalidateFrom data.inetAddrs.length 1 data

/-- `inetAddrs.push_back(addr)`. A vector that is full copies its elements to new
storage. -/
def pushBack (data : IPv6InterfaceData) (addr : InterfaceAddress) (reallocates : Bool) :
    IPv6InterfaceData :=
  { data with
    inetAddrs := (if reallocates then data.inetAddrs.map (·.copy) else data.inetAddrs) ++
      [addr.copy] }

/-- No address is assigned twice. -/
def Distinct (data : IPv6InterfaceData) : Prop := (data.inetAddrs.map (·.addr)).Nodup

/-- The addresses that can expire. -/
def configured (data : IPv6InterfaceData) : List InterfaceAddress := data.inetAddrs.drop 1

/-- `data'` has no address that can expire but those of `data`, with their lifetimes. -/
def Within (data data' : IPv6InterfaceData) : Prop :=
  ∀ a' ∈ data'.configured, ∃ a ∈ data.configured, a.value = a'.value

variable {data data' : IPv6InterfaceData}

theorem Within.refl (data : IPv6InterfaceData) : Within data data :=
  fun a inside => ⟨a, inside, rfl⟩

theorem Within.trans {data'' : IPv6InterfaceData} (first : Within data data')
    (second : Within data' data'') : Within data data'' := by
  intro a'' inside
  obtain ⟨a', inside', same⟩ := second a'' inside
  obtain ⟨a, inside, same'⟩ := first a' inside'
  exact ⟨a, inside, same'.trans same⟩

theorem map_value_assign {dest addrs : List InterfaceAddress} (shorter : addrs.length ≤ dest.length) :
    (dest.zipWith InterfaceAddress.assign addrs).map (·.value) = addrs.map (·.value) := by
  induction addrs generalizing dest with
  | nil => simp
  | cons a rest ih =>
      cases dest with
      | nil => simp at shorter
      | cons d others =>
          simp only [List.zipWith_cons_cons, List.map_cons, InterfaceAddress.value_assign]
          rw [ih (Nat.le_of_succ_le_succ shorter)]

theorem map_addr_modify {addrs : List InterfaceAddress} {index : Nat}
    {f : InterfaceAddress → InterfaceAddress} (address : ∀ a, (f a).addr = a.addr) :
    (addrs.modify index f).map (·.addr) = addrs.map (·.addr) := by
  apply List.ext_getElem?
  intro j
  simp only [List.getElem?_map, List.getElem?_modify, Option.map_eq_map, Option.map_map]
  congr 1
  funext a
  simp only [Function.comp_apply]
  split
  · exact address a
  · rfl

theorem removeAddrFromArray_value {addrs addrs' : List InterfaceAddress} {addr : IPv6Address}
    (distinct : (addrs.map (·.addr)).Nodup) (removed : removeAddrFromArray addrs addr = .ok addrs') :
    addrs'.map (·.value) = (addrs.filter (·.toIPv6Address ≠ addr)).map (·.value) := by
  unfold removeAddrFromArray at removed
  dsimp only at removed
  split at removed
  · rename_i shorter
    have one : addrs.length ≤ (addrs.filter (·.toIPv6Address ≠ addr)).length + 1 := by
      clear shorter removed
      induction addrs with
      | nil => exact Nat.zero_le _
      | cons a rest ih =>
          obtain ⟨apart, distinct'⟩ := List.nodup_cons.mp distinct
          by_cases same : a.toIPv6Address = addr
          · have others : rest.filter (·.toIPv6Address ≠ addr) = rest := by
              refine List.filter_eq_self.mpr fun b inside => decide_eq_true fun equal => ?_
              exact apart (List.mem_map.mpr ⟨b, inside, by rw [equal, ← same]⟩)
            rw [List.filter_cons_of_neg (by simp [same]), others, List.length_cons]
          · rw [List.filter_cons_of_pos (by simp [same]), List.length_cons, List.length_cons]
            exact Nat.succ_le_succ (ih distinct')
    cases removed
    rw [List.drop_eq_nil_of_le one, List.append_nil, map_value_assign (List.length_filter_le _ _)]
  · cases removed

theorem map_addr_eq {addrs addrs' : List InterfaceAddress} (same : addrs'.map (·.value) = addrs.map (·.value)) :
    addrs'.map (·.addr) = addrs.map (·.addr) := by
  have addresses := congrArg (List.map (·.1.addr)) same
  rwa [List.map_map, List.map_map] at addresses

theorem removeAddress_within (distinct : data.Distinct) {a : InterfaceAddress}
    (inside : a ∈ data.configured) (removed : data.removeAddress a.toIPv6Address = .ok data') :
    data'.Distinct ∧ Within data data' := by
  simp only [removeAddress, bind_eq_ok] at removed
  obtain ⟨-, -, addrs', removed, done⟩ := removed
  cases done
  have values := removeAddrFromArray_value distinct removed
  have addresses := map_addr_eq values
  constructor
  · unfold Distinct
    rw [addresses]
    exact distinct.sublist (List.filter_sublist.map _)
  · intro a' inside'
    unfold Distinct at distinct
    unfold configured at inside inside'
    cases split : data.inetAddrs with
    | nil => simp [split] at inside
    | cons head rest =>
        rw [split] at distinct inside values
        have apart := (List.nodup_cons.mp distinct).1
        have kept : head.toIPv6Address ≠ a.toIPv6Address := fun same =>
          apart (List.mem_map.mpr ⟨a, inside, congrArg (·.addr) same.symm⟩)
        rw [List.filter_cons_of_pos (by simp [kept])] at values
        have member : a'.value ∈ (rest.filter (·.toIPv6Address ≠ a.toIPv6Address)).map (·.value) := by
          have tail := congrArg (List.drop 1) values
          rw [← List.map_drop] at tail
          have found := List.mem_map_of_mem (f := InterfaceAddress.value) inside'
          rw [tail] at found
          exact found
        obtain ⟨b, filtered, same⟩ := List.mem_map.mp member
        refine ⟨b, ?_, same⟩
        unfold configured
        rw [split]
        exact (List.mem_filter.mp filtered).1

theorem invalidateFrom_within {rounds addrIndex : Nat} (distinct : data.Distinct)
    (done : invalidateFrom rounds (addrIndex + 1) data = .ok data') : data'.Distinct ∧ Within data data' := by
  induction rounds generalizing addrIndex data with
  | zero =>
      cases done
      exact ⟨distinct, Within.refl _⟩
  | succ rounds ih =>
      unfold invalidateFrom at done
      split at done
      · cases done
        exact ⟨distinct, Within.refl _⟩
      · rename_i a found
        obtain ⟨middle, removed, done⟩ := bind_eq_ok.mp done
        have inside : a ∈ data.configured := by
          unfold configured
          rw [List.mem_iff_getElem?]
          exact ⟨addrIndex, by rw [List.getElem?_drop, Nat.add_comm]; exact found⟩
        have first : middle.Distinct ∧ Within data middle := by
          split at removed
          · exact removeAddress_within distinct inside removed
          · cases removed
            exact ⟨distinct, Within.refl _⟩
        obtain ⟨distinct', within'⟩ := ih first.1 done
        exact ⟨distinct', first.2.trans within'⟩

theorem invalidateAddresses_within (distinct : data.Distinct)
    (done : data.invalidateAddresses = .ok data') : data'.Distinct ∧ Within data data' :=
  invalidateFrom_within distinct done

theorem minValidLifetime_le {minimum : BitVec 32} (done : data.minValidLifetime = .ok minimum) :
    ∀ a ∈ data.configured, 0 < a.storedLifetime ∧ minimum ≤ a.storedLifetime := by
  have general : ∀ (addrs : List InterfaceAddress) (start : BitVec 32),
      addrs.foldlM (fun (minLifetime : BitVec 32) (a : InterfaceAddress) => do
        Exec.assert (0 < a.storedLifetime)
        return if a.storedLifetime ≤ minLifetime then a.storedLifetime else minLifetime) start =
          (.ok minimum : Exec (BitVec 32)) →
      minimum ≤ start ∧ ∀ a ∈ addrs, 0 < a.storedLifetime ∧ minimum ≤ a.storedLifetime := by
    intro addrs
    induction addrs with
    | nil =>
        intro start done
        cases done
        exact ⟨BitVec.le_refl _, fun a inside => absurd inside List.not_mem_nil⟩
    | cons a rest ih =>
        intro start done
        rw [List.foldlM_cons] at done
        obtain ⟨next, first, done⟩ := bind_eq_ok.mp done
        obtain ⟨_, positive, picked⟩ := bind_eq_ok.mp first
        rw [assert_eq_ok] at positive
        cases picked
        obtain ⟨below, others⟩ := ih _ done
        have least : minimum ≤ start ∧ minimum ≤ a.storedLifetime := by
          simp only [BitVec.le_def] at below ⊢
          split at below <;> omega
        refine ⟨least.1, fun b inside => ?_⟩
        rcases List.mem_cons.mp inside with rfl | later
        · exact ⟨positive, least.2⟩
        · exact others b later
  exact (general _ _ done).2

theorem configured_elapseLifetimes (data : IPv6InterfaceData) (seconds : BitVec 32) :
    (data.elapseLifetimes seconds).configured = data.configured.map (·.elapse seconds) := by
  unfold configured elapseLifetimes
  cases data.inetAddrs <;> simp

theorem distinct_elapseLifetimes {seconds : BitVec 32} (distinct : data.Distinct) :
    (data.elapseLifetimes seconds).Distinct := by
  unfold Distinct elapseLifetimes at *
  simp only [List.map_append, List.map_map, Function.comp_def, InterfaceAddress.addr_elapse]
  rw [← List.map_append, List.take_append_drop]
  exact distinct

theorem map_value_pushBack (data : IPv6InterfaceData) (addr : InterfaceAddress) (reallocates : Bool) :
    (data.pushBack addr reallocates).inetAddrs.map (·.value) = data.inetAddrs.map (·.value) ++ [addr.value] := by
  unfold pushBack
  cases reallocates <;> simp

theorem distinct_pushBack {addr : InterfaceAddress} {reallocates : Bool} (distinct : data.Distinct)
    (absent : data.addrAssigned addr.addr = false) : (data.pushBack addr reallocates).Distinct := by
  have addresses := congrArg (List.map (·.1.addr)) (map_value_pushBack data addr reallocates)
  simp only [List.map_append, List.map_map, List.map_cons, List.map_nil] at addresses
  unfold Distinct
  change List.map (fun a : InterfaceAddress => a.value.1.addr) _ |>.Nodup
  change List.map (fun a : InterfaceAddress => a.value.1.addr) _ = _ at addresses
  rw [addresses, List.nodup_append]
  refine ⟨distinct, List.nodup_singleton _, fun b inside c last same => ?_⟩
  rw [List.mem_singleton.mp last] at same
  obtain ⟨a, member, equal⟩ := List.mem_map.mp inside
  have apart := List.any_eq_false.mp absent a member
  exact apart (decide_eq_true (equal.trans same))

theorem configured_pushBack {addr a' : InterfaceAddress} {reallocates : Bool}
    (inside : a' ∈ (data.pushBack addr reallocates).configured) :
    a'.value = addr.value ∨ ∃ a ∈ data.configured, a.value = a'.value := by
  have values := congrArg (List.drop 1) (map_value_pushBack data addr reallocates)
  rw [← List.map_drop] at values
  have member := List.mem_map_of_mem (f := InterfaceAddress.value) inside
  unfold configured at member ⊢
  rw [values] at member
  cases split : data.inetAddrs with
  | nil => simp [split] at member
  | cons head rest =>
      rw [split, List.map_cons, List.cons_append, List.drop_one, List.tail_cons] at member
      rcases List.mem_append.mp member with old | new
      · exact Or.inr (List.mem_map.mp old)
      · exact Or.inl (List.mem_singleton.mp new)

end IPv6InterfaceData

end IPv6Suite
