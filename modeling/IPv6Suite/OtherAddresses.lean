import IPv6Suite.DadConflict

namespace IPv6Suite

open Lib

namespace IPv6InterfaceData

/-- The first of distinct addresses is removed and the others move down. -/
theorem removeAddrFromArray_head {a : InterfaceAddress} {rest : List InterfaceAddress}
    (distinct : ((a :: rest).map (·.addr)).Nodup) :
    ∃ addrs', removeAddrFromArray (a :: rest) a.toIPv6Address = .ok addrs' ∧
      addrs'.map (·.value) = rest.map (·.value) := by
  have others : (a :: rest).filter (·.toIPv6Address ≠ a.toIPv6Address) = rest := by
    rw [List.filter_cons_of_neg (by simp)]
    refine List.filter_eq_self.mpr fun b inside => decide_eq_true fun same => ?_
    exact (List.nodup_cons.mp distinct).1 (List.mem_map.mpr ⟨b, inside, congrArg (·.addr) same⟩)
  obtain ⟨addrs', removed⟩ : ∃ addrs', removeAddrFromArray (a :: rest) a.toIPv6Address = .ok addrs' := by
    unfold removeAddrFromArray
    dsimp only
    rw [others]
    exact ⟨_, if_pos (Nat.lt_succ_self rest.length)⟩
  have values := removeAddrFromArray_value distinct removed
  rw [others] at values
  exact ⟨addrs', removed, values⟩

end IPv6InterfaceData

namespace DupAddrDet

variable {s s' : DupAddrDet} {now : SimTime} {ifIndex j rounds depth : Nat} {ie : DadInterface}
  {detect : Ptr → NDTimer → DupAddrDet → Exec DupAddrDet} {a : InterfaceAddress} {rest : List InterfaceAddress}

theorem isMulticast_solNodeAddr (addr : Ipv6Addr) : addr.solNodeAddr.isMulticast = true := by
  change (0xFF020000 : BitVec 32) &&& _ == _
  decide

theorem interfaceByPortNo_ok (located : s.interfaces[ifIndex]? = some ie) : s.interfaceByPortNo ifIndex = .ok ie := by
  rw [interfaceByPortNo, located, deref_some]

theorem tentativeAddrs_located (located : s.interfaces[ifIndex]? = some ie) :
    s.tentativeAddrs ifIndex = ie.ipv6.tentativeAddrs := by
  rw [tentativeAddrs, located]
  rfl

theorem withInterface_located (located : s.interfaces[ifIndex]? = some ie) (ie' : DadInterface) :
    (s.withInterface ifIndex ie').interfaces[ifIndex]? = some ie' :=
  List.getElem?_set_self (List.getElem?_eq_some_iff.mp located).1

theorem dupAddrDetFrom_end (behind : (s.tentativeAddrs ifIndex)[j]? = none) (rounds : Nat) :
    dupAddrDetFrom detect ifIndex rounds j s = .ok s := by
  cases rounds with
  | zero => rfl
  | succ rounds =>
      unfold dupAddrDetFrom
      rw [behind]

/-! ### Without solicitations -/

/-- The addresses of an interface that were reported as assigned -/
def assignedOn (ifIndex : Nat) (sent : List DadOutput) : List Ipv6Addr :=
  sent.filterMap fun
    | .addrAssigned _ i addr => if i = ifIndex then some addr else none
    | _ => none

/-- What `assignAddress` asserts of the addresses that wait -/
structure Assignable (data : IPv6InterfaceData) : Prop where
  distinct : (data.tentativeAddrs.map (·.addr)).Nodup
  absent : ∀ a ∈ data.tentativeAddrs, data.addrAssigned a.addr = false
  lasting : ∀ a ∈ data.tentativeAddrs, a.storedLifetime ≠ 0

theorem assignAddress_first (located : s.interfaces[ifIndex]? = some ie) (assignable : Assignable ie.ipv6)
    (first : ie.ipv6.tentativeAddrs = a :: rest) :
    ∃ ipv6, s.assignAddress a.copy ifIndex = .ok (s.withInterface ifIndex { ie with ipv6 }) ∧
      ipv6.tentativeAddrs.map (·.value) = rest.map (·.value) ∧
      ipv6.inetAddrs.map (·.value) = ie.ipv6.inetAddrs.map (·.value) ++ [a.value] := by
  have here : a ∈ ie.ipv6.tentativeAddrs := first ▸ List.mem_cons_self
  have distinct := assignable.distinct
  rw [first] at distinct
  obtain ⟨addrs', removed, values⟩ := IPv6InterfaceData.removeAddrFromArray_head distinct
  have waits : ie.ipv6.tentativeAddrAssigned a.copy.addr = true :=
    List.any_eq_true.mpr ⟨a, here, decide_eq_true rfl⟩
  have absent : ie.ipv6.addrAssigned a.copy.addr = false := assignable.absent a here
  have lasting : a.copy.storedLifetime ≠ 0 := assignable.lasting a here
  have removes : ie.ipv6.removeTentativeAddress a.copy.toIPv6Address = .ok { ie.ipv6 with tentativeAddrs := addrs' } := by
    unfold IPv6InterfaceData.removeTentativeAddress
    rw [first]
    change (IPv6InterfaceData.removeAddrFromArray (a :: rest) a.toIPv6Address >>= _) = _
    rw [removed]
    rfl
  refine ⟨IPv6InterfaceData.pushBack { ie.ipv6 with tentativeAddrs := addrs' } a.copy
    (s.full ie.ipv6.inetAddrs.length), ?_, values, IPv6InterfaceData.map_value_pushBack _ _ _⟩
  unfold assignAddress
  rw [assert_pos (List.getElem?_eq_some_iff.mp located).1, ok_bind, interfaceByPortNo_ok located,
    ok_bind, assert_pos absent, ok_bind, if_pos waits, removes, ok_bind, assert_pos lasting]
  rfl

theorem sendRtrSol_ok (located : s.interfaces[ifIndex]? = some ie) :
    ∃ s', s.sendRtrSol now ifIndex = .ok s' ∧ s'.interfaces = s.interfaces ∧
      ∀ i, assignedOn i s'.sent = assignedOn i s.sent := by
  unfold sendRtrSol
  rw [interfaceByPortNo_ok located, ok_bind]
  refine ⟨_, rfl, rfl, fun i => ?_⟩
  exact List.filterMap_append.trans (List.append_nil _)

/-- All addresses that wait are assigned, in order; each assignment is reported when those behind it are done. -/
structure AllAssigned (ifIndex : Nat) (ie ie' : DadInterface) (s s' : DupAddrDet) : Prop where
  located : s'.interfaces[ifIndex]? = some ie'
  tentativeAddrs : ie'.ipv6.tentativeAddrs = []
  inetAddrs : ie'.ipv6.inetAddrs.map (·.value) =
    ie.ipv6.inetAddrs.map (·.value) ++ ie.ipv6.tentativeAddrs.map (·.value)
  sent : assignedOn ifIndex s'.sent = assignedOn ifIndex s.sent ++ (ie.ipv6.tentativeAddrs.map (·.addr)).reverse

theorem Assignable.behind {data data' : IPv6InterfaceData} (assignable : Assignable data)
    (first : data.tentativeAddrs = a :: rest) (waiting : data'.tentativeAddrs.map (·.value) = rest.map (·.value))
    (assigned : data'.inetAddrs.map (·.value) = data.inetAddrs.map (·.value) ++ [a.value]) : Assignable data' := by
  obtain ⟨distinct, absent, lasting⟩ := assignable
  rw [first] at distinct absent lasting
  obtain ⟨apart, distinct⟩ := List.nodup_cons.mp distinct
  have behind (b : InterfaceAddress) (inside : b ∈ data'.tentativeAddrs) : ∃ c ∈ rest, c.value = b.value :=
    List.mem_map.mp (waiting ▸ List.mem_map.mpr ⟨b, inside, rfl⟩)
  refine ⟨?_, ?_, ?_⟩
  · rw [IPv6InterfaceData.map_addr_eq waiting]
    exact distinct
  · intro b inside
    obtain ⟨c, inside', same⟩ := behind b inside
    apply List.any_eq_false.mpr
    intro d member equal
    have old : d.value ∈ data.inetAddrs.map (·.value) ++ [a.value] := assigned ▸ List.mem_map.mpr ⟨d, member, rfl⟩
    have address : c.addr = d.addr := (congrArg (·.1.addr) same).trans (of_decide_eq_true equal).symm
    rcases List.mem_append.mp old with old | old
    · obtain ⟨e, inside'', same'⟩ := List.mem_map.mp old
      have missing := List.any_eq_false.mp (absent c (List.mem_cons_of_mem _ inside')) e inside''
      exact missing (decide_eq_true ((congrArg (·.1.addr) same').trans address.symm))
    · have head : d.addr = a.addr := congrArg (·.1.addr) (List.mem_singleton.mp old)
      exact apart (List.mem_map.mpr ⟨c, inside', address.trans head⟩)
  · intro b inside
    obtain ⟨c, inside', same⟩ := behind b inside
    have lifetime : c.storedLifetime = b.storedLifetime := congrArg (·.2.1) same
    exact lifetime ▸ lasting c (List.mem_cons_of_mem _ inside')

theorem initialiseOnce_ok {t : DupAddrDet} {ie' : DadInterface} (located : s.interfaces[ifIndex]? = some ie)
    (starting : ie.initStarted = false)
    (detects : { s with stateEntered := true }.dupAddrDetOtherAddr detect ifIndex = .ok t)
    (there : t.interfaces[ifIndex]? = some ie') :
    ∃ s', s.initialiseOnce detect now ifIndex = .ok s' ∧
      s'.interfaces[ifIndex]? = some { ie' with initStarted := true } ∧
      ∀ i, assignedOn i s'.sent = assignedOn i t.sent := by
  unfold initialiseOnce initialiseInterface
  rw [interfaceByPortNo_ok located, ok_bind, if_pos starting, detects, ok_bind, interfaceByPortNo_ok there,
    ok_bind]
  by_cases solicits : t.isRouter = false ∧ ie'.rtrSolicited = false
  · obtain ⟨u, sends, same, sent⟩ := @sendRtrSol_ok t now ifIndex ie' there
    have kept : u.interfaces[ifIndex]? = some ie' := by rw [same, there]
    rw [if_pos solicits, sends, ok_bind, interfaceByPortNo_ok kept, ok_bind]
    exact ⟨_, rfl, withInterface_located kept _, sent⟩
  · rw [if_neg solicits, pure_eq_ok, ok_bind, interfaceByPortNo_ok there, ok_bind]
    exact ⟨_, rfl, withInterface_located there _, fun _ => rfl⟩

/-- The first assignment initialises the interface once more, which assigns the others. By induction on the number
of addresses that wait -/
theorem dupAddrDetOtherAddr_assigns {n : Nat} (located : s.interfaces[ifIndex]? = some ie)
    (starting : ie.initStarted = false) (skips : ie.dupAddrDetectTrans < 1) (assignable : Assignable ie.ipv6)
    (count : ie.ipv6.tentativeAddrs.length = n) (deep : n < depth) :
    ∃ s' ie', s.dupAddrDetOtherAddr (dupAddrDetection now depth) ifIndex = .ok s' ∧
      AllAssigned ifIndex ie ie' s s' := by
  induction n generalizing s ie depth with
  | zero =>
      have none := List.length_eq_zero_iff.mp count
      refine ⟨s, ie, ?_, located, none, ?_, ?_⟩
      · unfold dupAddrDetOtherAddr
        rw [interfaceByPortNo_ok located, ok_bind, count]
        rfl
      · rw [none, List.map_nil, List.append_nil]
      · rw [none, List.map_nil, List.reverse_nil, List.append_nil]
  | succ n ih =>
      obtain ⟨a, rest, first, long⟩ := List.length_eq_succ_iff.mp count
      obtain ⟨depth, rfl⟩ : ∃ inner, depth = inner + 1 := ⟨depth - 1, by omega⟩
      let started : DupAddrDet :=
        { s with next := s.next + 1, multicastGroup := s.multicastGroup ++ [a.addr.solNodeAddr] }
      obtain ⟨ipv6, assigns, waiting, assigned⟩ := @assignAddress_first started ifIndex ie a rest located assignable first.symm
      have there : (started.withInterface ifIndex { ie with ipv6 }).interfaces[ifIndex]? = some { ie with ipv6 } :=
        withInterface_located located _
      have fewer : ipv6.tentativeAddrs.length = n := by
        rw [← List.length_map, waiting, List.length_map, long]
      obtain ⟨t, ie', detects, all⟩ := @ih { started.withInterface ifIndex { ie with ipv6 } with stateEntered := true }
        depth { ie with ipv6 } there starting skips (assignable.behind first.symm waiting assigned) fewer (by omega)
      obtain ⟨u, initialises, kept, sent⟩ := @initialiseOnce_ok _ now ifIndex _ _ _ _ there starting detects all.located
      refine ⟨{ u with sent := u.sent ++ [.addrAssigned s.next ifIndex a.addr] }, { ie' with initStarted := true }, ?_,
        kept, all.tentativeAddrs, ?_, ?_⟩
      · unfold dupAddrDetOtherAddr
        rw [interfaceByPortNo_ok located, ok_bind, count]
        have head : (s.tentativeAddrs ifIndex)[0]? = some a := by
          rw [tentativeAddrs_located located, ← first]
          rfl
        unfold dupAddrDetFrom
        rw [head]
        dsimp only
        have detected : s.newDetection (dupAddrDetection now (depth + 1)) ifIndex a =
            .ok { u with sent := u.sent ++ [.addrAssigned s.next ifIndex a.addr] } := by
          have port : { s with next := s.next + 1 }.interfaceByPortNo (NDTimer.create ifIndex a).ifIndex = .ok ie :=
            interfaceByPortNo_ok located
          have joins : { s with next := s.next + 1 }.joinMulticastGroup (NDTimer.create ifIndex a).tentativeAddr.addr.solNodeAddr =
              .ok started := by
            unfold joinMulticastGroup
            rw [assert_pos (isMulticast_solNodeAddr _)]
            rfl
          have succeeds : started.dupAddrDetSuccess (dupAddrDetection now depth) now s.next (.create ifIndex a) =
              .ok { u with sent := u.sent ++ [.addrAssigned s.next ifIndex a.addr] } := by
            unfold dupAddrDetSuccess
            change (started.assignAddress a.copy ifIndex >>= _) = _
            rw [assigns, ok_bind]
            change (initialiseOnce _ _ now ifIndex >>= _) = _
            rw [initialises]
            rfl
          unfold newDetection dupAddrDetection
          rw [port, ok_bind, if_neg (by exact Bool.false_ne_true), joins, ok_bind, if_pos skips, succeeds]
        rw [detected, ok_bind]
        apply dupAddrDetFrom_end
        have last : u.tentativeAddrs ifIndex = [] := (tentativeAddrs_located kept).trans all.tentativeAddrs
        change (u.tentativeAddrs ifIndex)[1]? = none
        rw [last]
        rfl
      · rw [all.inetAddrs, assigned, waiting, ← first, List.append_assoc]
        rfl
      · have here : assignedOn ifIndex [.addrAssigned s.next ifIndex a.addr] = [a.addr] := by
          simp [assignedOn]
        have split : assignedOn ifIndex (u.sent ++ [.addrAssigned s.next ifIndex a.addr]) =
            assignedOn ifIndex u.sent ++ [a.addr] := by
          rw [← here]
          exact List.filterMap_append
        rw [split, sent, all.sent, IPv6InterfaceData.map_addr_eq waiting, ← first, List.map_cons, List.reverse_cons,
          List.append_assoc]
        rfl

/-! ### With solicitations -/

/-- The interface and the address that a timer detects duplicates for -/
def NDTimerMsg.detected (m : NDTimerMsg) : Option (Nat × Ipv6Addr) :=
  match m.kind with
  | .dupAddrDet tmr => some (tmr.ifIndex, tmr.tentativeAddr.addr)
  | _ => none

/-- The interface and the address that a solicitation is for -/
def solicited : DadOutput → Option (Nat × Ipv6Addr)
  | .ngbrSol _ targetAddr ifIndex _ => some (ifIndex, targetAddr)
  | _ => none

/-- For each of the addresses a timer was scheduled and a first solicitation sent, in order. Nothing else was done. -/
structure Started (ifIndex : Nat) (addrs : List InterfaceAddress) (s s' : DupAddrDet) : Prop where
  interfaces : s'.interfaces = s.interfaces
  timers : ∃ ms, s'.timerMsgs = s.timerMsgs ++ ms ∧ (∀ m ∈ ms, m.arrival.isSome = true) ∧
    ms.map NDTimerMsg.detected = addrs.map fun a => some (ifIndex, a.addr)
  sent : ∃ sols, s'.sent = s.sent ++ sols ∧ sols.map solicited = addrs.map fun a => some (ifIndex, a.addr)
  allocated : s'.Allocated
  odad : s'.odad = s.odad

theorem Started.nil (allocated : s.Allocated) : Started ifIndex [] s s where
  interfaces := rfl
  timers := ⟨[], (List.append_nil _).symm, fun _ inside => absurd inside List.not_mem_nil, rfl⟩
  sent := ⟨[], (List.append_nil _).symm, rfl⟩
  allocated := allocated
  odad := rfl

theorem Started.trans {t : DupAddrDet} {front back : List InterfaceAddress} (first : Started ifIndex front s s')
    (second : Started ifIndex back s' t) : Started ifIndex (front ++ back) s t := by
  obtain ⟨ms, added, scheduled, detected⟩ := first.timers
  obtain ⟨ms', added', scheduled', detected'⟩ := second.timers
  obtain ⟨sols, sent, solicits⟩ := first.sent
  obtain ⟨sols', sent', solicits'⟩ := second.sent
  refine ⟨second.interfaces.trans first.interfaces, ⟨ms ++ ms', ?_, ?_, ?_⟩, ⟨sols ++ sols', ?_, ?_⟩, second.allocated,
    second.odad.trans first.odad⟩
  · rw [added', added, List.append_assoc]
  · exact List.forall_mem_append.mpr ⟨scheduled, scheduled'⟩
  · rw [List.map_append, List.map_append, detected, detected']
  · rw [sent', sent, List.append_assoc]
  · rw [List.map_append, List.map_append, solicits, solicits']

theorem dupAddrDetContinue_starts {p : Ptr} {dgram : IPv6Datagram} (t : DupAddrDet) (tmr : NDTimer) (delay : SimTime)
    (fresh : ∀ m ∈ s.timerMsgs, m.ptr ≠ p) (appended : t.timerMsgs = s.timerMsgs ++ [⟨p, .dupAddrDet tmr, none⟩])
    (more : tmr.counter < tmr.maxSends) (ready : tmr.dgram = some dgram) :
    ∃ s' kind time time', t.dupAddrDetContinue detect now p tmr delay = .ok s' ∧ s'.interfaces = t.interfaces ∧
      s'.timerMsgs = s.timerMsgs ++ [⟨p, .dupAddrDet kind, some time⟩] ∧
      (kind.ifIndex, kind.tentativeAddr.addr) = (tmr.ifIndex, tmr.tentativeAddr.addr) ∧
      s'.sent = t.sent ++ [.ngbrSol dgram tmr.tentativeAddr.addr tmr.ifIndex time'] ∧ s'.next = t.next ∧
      s'.odad = t.odad := by
  unfold dupAddrDetContinue
  rw [if_pos more, ready, deref_some, ok_bind]
  refine ⟨_, { tmr with dgram := some dgram, counter := tmr.counter + 1 }, now + delay + tmr.timeout, now + delay, rfl,
    rfl, ?_, rfl, rfl, rfl, rfl⟩
  have kept (scheduled : NDTimerMsg) : s.timerMsgs.map (fun m => if m.ptr = p then scheduled else m) = s.timerMsgs :=
    (List.map_congr_left fun m inside => if_neg (fresh m inside)).trans (List.map_id _)
  change t.timerMsgs.map _ = _
  rw [appended, List.map_append, List.map_singleton, if_pos rfl, kept]

theorem newDetection_starts (located : s.interfaces[ifIndex]? = some ie) (solicits : 1 ≤ ie.dupAddrDetectTrans)
    (allocated : s.Allocated) (specified : s.odad = true → ie.ipv6.tentativeAddrAssigned .unspecified = false)
    (a : InterfaceAddress) :
    ∃ s', s.newDetection (dupAddrDetection now (depth + 1)) ifIndex a = .ok s' ∧ Started ifIndex [a] s s' := by
  have port : { s with next := s.next + 1 }.interfaceByPortNo (NDTimer.create ifIndex a).ifIndex = .ok ie :=
    interfaceByPortNo_ok located
  have waits : ¬ ie.dupAddrDetectTrans < 1 := Int.not_lt.mpr solicits
  have more : 0 < ie.dupAddrDetectTrans := by omega
  have fresh : ∀ m ∈ s.timerMsgs, m.ptr ≠ s.next := fun m inside => Nat.ne_of_lt (allocated m inside)
  unfold newDetection dupAddrDetection joinMulticastGroup
  rw [port, ok_bind, if_neg (by exact Bool.false_ne_true), assert_pos (isMulticast_solNodeAddr _)]
  simp only [ok_bind, pure_eq_ok]
  rw [if_neg waits]
  unfold dupAddrDetStart
  rw [assert_pos specified, ok_bind]
  let tmr : NDTimer := { NDTimer.create ifIndex a with
    msg := true
    dgram := some { IPv6Datagram.create .unspecified a.addr.solNodeAddr with hopLimit := ndHopLimit }
    maxSends := ie.dupAddrDetectTrans
    timeout := ie.retransTimer / 1000 }
  obtain ⟨s', kind, time, time', starts, interfaces, timers, same, sent, next, odad⟩ :=
    @dupAddrDetContinue_starts s now (dupAddrDetection now depth) s.next _
      { s with
        next := s.next + 1
        multicastGroup := s.multicastGroup ++ [a.addr.solNodeAddr]
        timerMsgs := s.timerMsgs ++ [⟨s.next, .dupAddrDet tmr, none⟩] }
      tmr (if s.odad ∨ s.awayFromHome ∨ ie.ipv6.inetAddrs ≠ [] then 0 else s.uniform s.next) fresh rfl more rfl
  refine ⟨s', starts, interfaces, ⟨_, timers, ?_, congrArg (fun pair => [some pair]) same⟩, ⟨_, sent, rfl⟩, ?_, odad⟩
  · exact List.forall_mem_singleton.mpr rfl
  · intro m inside
    rw [timers] at inside
    rw [next]
    rcases List.mem_append.mp inside with inside | inside
    · exact Nat.lt_succ_of_lt (allocated m inside)
    · cases List.mem_singleton.mp inside
      exact Nat.lt_succ_self s.next

/-- The vector of the addresses stays as it is, so that the loop reaches each of them. By induction on the rounds -/
theorem dupAddrDetFrom_starts (located : s.interfaces[ifIndex]? = some ie) (solicits : 1 ≤ ie.dupAddrDetectTrans)
    (allocated : s.Allocated) (specified : s.odad = true → ie.ipv6.tentativeAddrAssigned .unspecified = false)
    (enough : ie.ipv6.tentativeAddrs.length ≤ j + rounds) :
    ∃ s', dupAddrDetFrom (dupAddrDetection now (depth + 1)) ifIndex rounds j s = .ok s' ∧
      Started ifIndex (ie.ipv6.tentativeAddrs.drop j) s s' := by
  induction rounds generalizing s j with
  | zero =>
      have behind : ie.ipv6.tentativeAddrs.length ≤ j := enough
      rw [List.drop_eq_nil_of_le behind]
      exact ⟨s, rfl, .nil allocated⟩
  | succ rounds ih =>
      cases inside : ie.ipv6.tentativeAddrs[j]? with
      | none =>
          rw [List.drop_eq_nil_of_le (List.getElem?_eq_none_iff.mp inside)]
          refine ⟨s, dupAddrDetFrom_end ?_ _, .nil allocated⟩
          rw [tentativeAddrs_located located, inside]
      | some a =>
          obtain ⟨t, starts, first⟩ := @newDetection_starts s now ifIndex depth ie located solicits allocated specified a
          have there : t.interfaces[ifIndex]? = some ie := by rw [first.interfaces, located]
          have specified' : t.odad = true → ie.ipv6.tentativeAddrAssigned .unspecified = false := by
            rw [first.odad]
            exact specified
          obtain ⟨s', goesOn, others⟩ := @ih t (j + 1) there first.allocated specified' (by omega)
          refine ⟨s', ?_, ?_⟩
          · unfold dupAddrDetFrom
            rw [tentativeAddrs_located located, inside]
            dsimp only
            rw [starts, ok_bind, goesOn]
          · obtain ⟨bound, here⟩ := List.getElem?_eq_some_iff.mp inside
            rw [List.drop_eq_getElem_cons bound, here]
            exact first.trans others

/-- An interface that waits for its first address, with what the code asserts of the addresses that wait behind it:
a solicitation is not sent from a tentative address, and an address is not assigned twice. -/
structure Waits (s : DupAddrDet) (ifIndex : Nat) (ie : DadInterface) : Prop where
  located : s.interfaces[ifIndex]? = some ie
  starting : ie.initStarted = false
  allocated : s.Allocated
  specified : 1 ≤ ie.dupAddrDetectTrans → s.odad = true → ie.ipv6.tentativeAddrAssigned .unspecified = false
  assignable : ie.dupAddrDetectTrans < 1 → Assignable ie.ipv6

/-- The addresses that wait are all assigned, or the detection of each is started, whatever is more than enough for
the nested initialisations. -/
theorem dupAddrDetOtherAddr_all (waits : s.Waits ifIndex ie) (now : SimTime)
    (deep : ie.ipv6.tentativeAddrs.length < depth) :
    ∃ s', s.dupAddrDetOtherAddr (dupAddrDetection now depth) ifIndex = .ok s' ∧
      (1 ≤ ie.dupAddrDetectTrans → Started ifIndex ie.ipv6.tentativeAddrs s s') ∧
      (ie.dupAddrDetectTrans < 1 → ∃ ie', AllAssigned ifIndex ie ie' s s') := by
  by_cases solicits : 1 ≤ ie.dupAddrDetectTrans
  · obtain ⟨depth, rfl⟩ : ∃ inner, depth = inner + 1 := ⟨depth - 1, by omega⟩
    obtain ⟨s', loops, started⟩ := @dupAddrDetFrom_starts s now ifIndex 0 ie.ipv6.tentativeAddrs.length depth ie
      waits.located solicits waits.allocated (waits.specified solicits) (by omega)
    refine ⟨s', ?_, fun _ => started, fun skips => absurd solicits (by omega)⟩
    unfold dupAddrDetOtherAddr
    rw [interfaceByPortNo_ok waits.located, ok_bind, loops]
  · have skips : ie.dupAddrDetectTrans < 1 := Int.not_le.mp solicits
    obtain ⟨s', ie', detects, all⟩ :=
      @dupAddrDetOtherAddr_assigns s now ifIndex depth ie _ waits.located waits.starting skips (waits.assignable skips) rfl
        deep
    exact ⟨s', detects, fun enabled => absurd enabled solicits, fun _ => ⟨ie', all⟩⟩

/-- The host of the other examples without solicitations -/
def exampleSilent (tentativeAddrs : List InterfaceAddress) : DupAddrDet :=
  let host := exampleHost tentativeAddrs
  { host with interfaces := host.interfaces.map ({ · with dupAddrDetectTrans := 0 }) }

def exampleWaiting : List InterfaceAddress := [1, 2, 3, 4].map fun low => .host ⟨0x20010000, 0, 0, low⟩

theorem dupAddrDetOtherAddr_all_example : ∃ s' ie',
    (exampleSilent exampleWaiting).dupAddrDetOtherAddr (dupAddrDetection 0 5) 0 = .ok s' ∧
      s'.interfaces[0]? = some ie' ∧ ie'.ipv6.tentativeAddrs = [] ∧
      ie'.ipv6.inetAddrs.map (·.value) = exampleWaiting.map (·.value) := by
  have allocated : (exampleSilent exampleWaiting).Allocated := by
    intro m inside
    cases List.mem_singleton.mp inside
    decide
  have waits : (exampleSilent exampleWaiting).Waits 0 _ :=
    ⟨rfl, rfl, allocated, by decide, fun _ => ⟨by decide, fun _ _ => rfl, by decide⟩⟩
  obtain ⟨s', detects, -, silent⟩ := @dupAddrDetOtherAddr_all _ 0 5 _ waits 0 (by decide)
  obtain ⟨ie', all⟩ := silent (by decide)
  exact ⟨s', ie', detects, all.located, all.tentativeAddrs, all.inetAddrs⟩

/-- An address that waits twice is assigned once, and then an assertion fails. -/
theorem dupAddrDetOtherAddr_fails :
    (exampleSilent (exampleWaiting ++ exampleWaiting)).dupAddrDetOtherAddr (dupAddrDetection 0 9) 0 =
      .error .assertFailed := by
  rfl

end DupAddrDet

end IPv6Suite
