import IPv6Suite.IPv6Forward

namespace IPv6Suite

open Lib

/-- The interfaces of a node in the order of their output ports. The loopback interface has port -1. -/
structure InterfaceTable where
  ports : List IPv6InterfaceData
  loopback : IPv6InterfaceData
deriving DecidableEq

/-- The loopback interface as `configureLoopbackForIPv6` sets it up -/
def lo0 : IPv6InterfaceData :=
  ⟨[{ IPv6Address.host .loopback with
      storedLifetime := validLifetimeInfinity, preferredLifetime := validLifetimeInfinity, updated := false }], []⟩

/-- A `size_t` handed over as an `int` -/
def portNo (ifIndex : Nat) : Int := (BitVec.ofNat 32 ifIndex).toInt

namespace InterfaceTable

def numInterfaceGates (ift : InterfaceTable) : Nat := ift.ports.length

/-- A null pointer for a port without an interface -/
def interfaceByPortNo (ift : InterfaceTable) (portNo : Int) : Option IPv6InterfaceData :=
  if portNo = -1 then some ift.loopback else if 0 ≤ portNo then ift.ports[portNo.toNat]? else none

/-- `RoutingTable6::determineSrcAddress`. Without a default router no interface is known for index `UINT_MAX`. -/
def determineSrcAddress (ift : InterfaceTable) (odad defaultRouter : Bool) (dest : Ipv6Addr) (ifIndex : Nat) :
    Exec Ipv6Addr := do
  Exec.assert (dest ≠ .unspecified)
  if ifIndex = uintMax ∧ defaultRouter = false then
    let ie ← Exec.deref .nullDeref (ift.interfaceByPortNo 0)
    match ie.inetAddrs with
    | addr :: _ => return addr.addr
    | [] => do
        -- its name, for the message
        let _ ← Exec.deref .nullDeref (ift.interfaceByPortNo (portNo ifIndex))
        match ie.tentativeAddrs with
        | addr :: _ => return if odad then addr.addr else .unspecified
        | [] => return .unspecified
  else
    let ie ← Exec.deref .nullDeref (ift.interfaceByPortNo (portNo ifIndex))
    let tentative := if odad then ie.tentativeAddrs else []
    match (ie.inetAddrs ++ tentative).find? (·.addr.scope = dest.scope) with
    | some addr => return addr.addr
    | none => do
        let addr ← Exec.deref .outOfBounds ie.inetAddrs.getLast?
        return addr.addr

/-- An address of one of the interfaces, the loopback interface included -/
def Assigned (ift : InterfaceTable) (addr : Ipv6Addr) : Prop :=
  ∃ ie ∈ ift.loopback :: ift.ports, ie.addrAssigned addr = true

def Tentative (ift : InterfaceTable) (addr : Ipv6Addr) : Prop :=
  ∃ ie ∈ ift.loopback :: ift.ports, ie.tentativeAddrAssigned addr = true

/-- What a source address for index `ifIndex` has to be -/
def Source (ift : InterfaceTable) (odad : Bool) (addr : Ipv6Addr) : Prop :=
  addr = .unspecified ∨ ift.Assigned addr ∨ odad = true ∧ ift.Tentative addr

/-- The interface is there, and has an assigned address or, with optimistic detection, a tentative one of the scope of
the destination. For index `UINT_MAX` without a default router an interface with port 0 is enough. -/
def Ready (ift : InterfaceTable) (odad defaultRouter : Bool) (dest : Ipv6Addr) (ifIndex : Nat) : Prop :=
  if ifIndex = uintMax ∧ defaultRouter = false then ift.ports ≠ []
  else ∃ ie, ift.interfaceByPortNo (portNo ifIndex) = some ie ∧
    (ie.inetAddrs ≠ [] ∨ odad = true ∧ ∃ addr ∈ ie.tentativeAddrs, addr.addr.scope = dest.scope)

variable {ift : InterfaceTable} {odad defaultRouter : Bool} {dest : Ipv6Addr} {ifIndex : Nat} {ie : IPv6InterfaceData}
  {addr : InterfaceAddress}

theorem interfaceByPortNo_mem {port : Int} (found : ift.interfaceByPortNo port = some ie) :
    ie ∈ ift.loopback :: ift.ports := by
  unfold interfaceByPortNo at found
  split at found
  · cases found
    exact List.mem_cons_self
  · split at found
    · exact List.mem_cons_of_mem _ (List.mem_of_getElem? found)
    · cases found

theorem interfaceByPortNo_uintMax : ift.interfaceByPortNo (portNo uintMax) = some ift.loopback := rfl

theorem interfaceByPortNo_zero : ift.interfaceByPortNo 0 = ift.ports.head? := by
  show ift.ports[0]? = _
  exact List.head?_eq_getElem?.symm

theorem source_of_assigned (there : ie ∈ ift.loopback :: ift.ports) (assigned : addr ∈ ie.inetAddrs) :
    ift.Source odad addr.addr :=
  .inr (.inl ⟨ie, there, List.any_eq_true.mpr ⟨addr, assigned, decide_eq_true rfl⟩⟩)

theorem source_of_tentative (optimistic : odad = true) (there : ie ∈ ift.loopback :: ift.ports)
    (tentative : addr ∈ ie.tentativeAddrs) : ift.Source odad addr.addr :=
  .inr (.inr ⟨optimistic, ie, there, List.any_eq_true.mpr ⟨addr, tentative, decide_eq_true rfl⟩⟩)

/-- The search on one interface -/
theorem chosen_iff (there : ie ∈ ift.loopback :: ift.ports) :
    (∃ a, (match (ie.inetAddrs ++ if odad then ie.tentativeAddrs else []).find? (·.addr.scope = dest.scope) with
        | some addr => (.ok addr.addr : Exec Ipv6Addr)
        | none => Exec.deref .outOfBounds ie.inetAddrs.getLast? >>= fun addr => .ok addr.addr) = .ok a ∧
        ift.Source odad a) ↔
      (ie.inetAddrs ≠ [] ∨ odad = true ∧ ∃ addr ∈ ie.tentativeAddrs, addr.addr.scope = dest.scope) := by
  split
  · rename_i addr found
    have member := List.mem_of_find?_eq_some found
    have scope : addr.addr.scope = dest.scope := by simpa using List.find?_some found
    rcases List.mem_append.mp member with assigned | tentative
    · exact iff_of_true ⟨addr.addr, rfl, source_of_assigned there assigned⟩ (.inl (List.ne_nil_of_mem assigned))
    · cases odad with
      | false => cases tentative
      | true =>
          exact iff_of_true ⟨addr.addr, rfl, source_of_tentative rfl there tentative⟩
            (.inr ⟨rfl, addr, tentative, scope⟩)
  · rename_i missing
    rw [List.find?_eq_none] at missing
    cases last : ie.inetAddrs.getLast? with
    | some addr =>
        have assigned := List.mem_of_getLast? last
        exact iff_of_true ⟨addr.addr, rfl, source_of_assigned there assigned⟩ (.inl (List.ne_nil_of_mem assigned))
    | none =>
        rw [List.getLast?_eq_none_iff] at last
        apply iff_of_false
        · rintro ⟨a, returns, -⟩
          cases returns
        · rintro (some | ⟨rfl, addr, tentative, scope⟩)
          · exact some last
          · exact missing addr (List.mem_append_right _ tentative) (decide_eq_true scope)

/-- A source address is found, or none is there to be found, when the interface is ready. Otherwise a null pointer or
the end of an empty vector is read. -/
theorem determineSrcAddress_safe_iff (ift : InterfaceTable) (odad defaultRouter : Bool) {dest : Ipv6Addr}
    (specified : dest ≠ .unspecified) (ifIndex : Nat) :
    (∃ a, ift.determineSrcAddress odad defaultRouter dest ifIndex = .ok a ∧ ift.Source odad a) ↔
      ift.Ready odad defaultRouter dest ifIndex := by
  unfold determineSrcAddress Ready
  rw [assert_pos specified, ok_bind]
  by_cases promiscuous : ifIndex = uintMax ∧ defaultRouter = false
  · rw [if_pos promiscuous, if_pos promiscuous, interfaceByPortNo_zero]
    cases ports : ift.ports with
    | nil =>
        apply iff_of_false
        · rintro ⟨a, returns, -⟩
          cases returns
        · exact fun some => some rfl
    | cons ie rest =>
        have there : ie ∈ ift.loopback :: ift.ports := by simp [ports]
        apply iff_of_true _ (List.cons_ne_nil _ _)
        rw [promiscuous.1, interfaceByPortNo_uintMax, List.head?_cons, deref_some, ok_bind]
        cases assigned : ie.inetAddrs with
        | cons addr others =>
            exact ⟨addr.addr, rfl, source_of_assigned there (by simp [assigned])⟩
        | nil =>
            cases tentative : ie.tentativeAddrs with
            | nil => exact ⟨_, rfl, .inl rfl⟩
            | cons addr others =>
                cases odad with
                | false => exact ⟨_, rfl, .inl rfl⟩
                | true => exact ⟨_, rfl, source_of_tentative rfl there (by simp [tentative])⟩
  · rw [if_neg promiscuous, if_neg promiscuous]
    cases found : ift.interfaceByPortNo (portNo ifIndex) with
    | none =>
        apply iff_of_false
        · rintro ⟨a, returns, -⟩
          cases returns
        · rintro ⟨ie, missing, -⟩
          cases missing
    | some ie =>
        simp only [Option.some.injEq, exists_eq_left']
        exact chosen_iff (interfaceByPortNo_mem found)

/-- A node with one interface, which has no address yet -/
def unready : InterfaceTable := ⟨[⟨[], []⟩], lo0⟩

def allNodes : Ipv6Addr := ⟨0xFF020000, 0, 0, 1⟩

theorem determineSrcAddress_safe_iff_unready :
    (∃ a, unready.determineSrcAddress true false allNodes uintMax = .ok a ∧ unready.Source true a) ↔
      unready.Ready true false allNodes uintMax :=
  determineSrcAddress_safe_iff unready true false (by decide) uintMax

/-- `inetAddrs[inetAddrs.size() - 1]` of an empty vector -/
theorem unready_reads_past_end : unready.determineSrcAddress false false allNodes 0 = .error .outOfBounds := by
  decide

end InterfaceTable

end IPv6Suite
