import IPv6Suite.AddressResolution

namespace IPv6Suite

open Lib

namespace IPv6CDS

variable {cds : IPv6CDS}

namespace Fresh

theorem empty : IPv6CDS.empty.Fresh where
  routers := fun r inside => absurd inside List.not_mem_nil
  neighbours := by
    intro addr n stored
    rw [IPv6CDS.empty, Std.TreeMap.getElem?_emptyc] at stored
    cases stored
  held := fun n inside => absurd inside List.not_mem_nil

theorem setDestEntry (fresh : cds.Fresh) (addr : Ipv6Addr) (de : DestinationEntry) :
    (cds.setDestEntry addr de).Fresh := ⟨fresh.routers, fresh.neighbours, fresh.held⟩

theorem removeDestEntryByNeighbour (fresh : cds.Fresh) (addr : Ipv6Addr) :
    (cds.removeDestEntryByNeighbour addr).Fresh := ⟨fresh.routers, fresh.neighbours, fresh.held⟩

theorem modify (fresh : cds.Fresh) (p : Ptr) (f : NeighbourEntry → NeighbourEntry) : (cds.modify p f).Fresh where
  routers := by
    intro r inside
    obtain ⟨old, stored, rfl⟩ := List.mem_map.mp inside
    have bound := fresh.routers old stored
    dsimp only
    split
    · exact bound
    · exact bound
  neighbours := by
    intro addr n stored
    simp only [IPv6CDS.modify, Std.TreeMap.getElem?_map, Option.map_eq_some_iff] at stored
    obtain ⟨old, stored, rfl⟩ := stored
    have bound := fresh.neighbours addr old stored
    split
    · exact bound
    · exact bound
  held := by
    intro n inside
    obtain ⟨old, stored, rfl⟩ := List.mem_map.mp inside
    have bound := fresh.held old stored
    split
    · exact bound
    · exact bound

theorem insertNeighbourEntry (fresh : cds.Fresh) (entry : NeighbourEntry) :
    (cds.insertNeighbourEntry entry).Fresh where
  routers := fun r inside => Nat.lt_succ_of_lt (fresh.routers r inside)
  neighbours := by
    intro addr n stored
    by_cases same : entry.unicastAddr = addr
    · subst same
      rw [IPv6CDS.insertNeighbourEntry, StdMap.getElem?_insert_self] at stored
      cases stored
      exact Nat.lt_succ_self _
    · rw [IPv6CDS.insertNeighbourEntry, StdMap.getElem?_insert_ne same] at stored
      exact Nat.lt_succ_of_lt (fresh.neighbours addr n stored)
  held := fun n inside => Nat.lt_succ_of_lt (fresh.held n inside)

theorem lock_insertNeighbourEntry (fresh : cds.Fresh) (entry : NeighbourEntry) :
    (cds.insertNeighbourEntry entry).lock
      ((cds.insertNeighbourEntry entry).neighbour entry.unicastAddr) = some entry := by
  have neighbour : (cds.insertNeighbourEntry entry).neighbour entry.unicastAddr = some cds.next := by
    unfold IPv6CDS.neighbour findDestEntry IPv6CDS.insertNeighbourEntry IPv6CDS.setDestEntry
    dsimp only
    rw [StdMap.getElem?_insert_self]
    rfl
  have apart : cds.routers.find? (·.1 = cds.next) = none := by
    rw [List.find?_eq_none]
    intro r inside same
    exact absurd (of_decide_eq_true same) (Nat.ne_of_lt (fresh.routers r inside))
  have found : (cds.insertNeighbourEntry entry).neighbourCache.toList.find? (·.2.1 = cds.next) =
      some (entry.unicastAddr, (cds.next, entry)) := by
    cases found : (cds.insertNeighbourEntry entry).neighbourCache.toList.find?
        (·.2.1 = cds.next) with
    | none =>
        have missing := (StdMap.find?_toList_eq_none _).mp found entry.unicastAddr _
          StdMap.getElem?_insert_self
        exact absurd rfl (of_decide_eq_false missing)
    | some n =>
        obtain ⟨same, stored, -⟩ := StdMap.find?_toList_eq_some _ found
        obtain ⟨addr, n⟩ := n
        by_cases inserted : entry.unicastAddr = addr
        · subst inserted
          rw [IPv6CDS.insertNeighbourEntry, StdMap.getElem?_insert_self] at stored
          cases stored
          rfl
        · rw [IPv6CDS.insertNeighbourEntry, StdMap.getElem?_insert_ne inserted] at stored
          exact absurd (of_decide_eq_true same) (Nat.ne_of_lt (fresh.neighbours addr n stored))
  rw [neighbour]
  change ((cds.routers.find? (·.1 = cds.next)).map (·.2.toNeighbourEntry)).or _ = _
  rw [apart, found]
  rfl

end Fresh

end IPv6CDS

namespace TimerScan

variable {tmr : NDARTimer} {scan : TimerScan} {tmrs : List NDARTimer}

theorem loop_thisTmr {p : Ptr} (found : (loop tmr scan tmrs).thisTmr = some p) :
    scan.thisTmr = some p ∨ p = tmr.ptr := by
  induction tmrs generalizing scan with
  | nil => exact .inl found
  | cons it rest ih =>
      unfold loop at found
      split_ifs at found with target same marker this
      · rcases ih found with this | this
        · exact .inr (Option.some.inj this ▸ same)
        · exact .inr this
      · have earlier := ih found
        exact earlier
      · exact .inl found
      · have earlier := ih found
        exact earlier
      · exact ih found

/-- What is removed besides the timer is a marker of the same target. -/
theorem loop_startRemove {p : Ptr} (found : (loop tmr scan tmrs).startRemove = some p) : scan.startRemove = some p ∨
      ∃ it ∈ tmrs, it.ptr = p ∧ it.targetAddr = tmr.targetAddr ∧ it.msg = none := by
  induction tmrs generalizing scan with
  | nil => exact .inl found
  | cons it rest ih =>
      have later {scan' : TimerScan} (found : (loop tmr scan' rest).startRemove = some p)
          (same : scan'.startRemove = scan.startRemove) : scan.startRemove = some p ∨
          ∃ it' ∈ it :: rest, it'.ptr = p ∧ it'.targetAddr = tmr.targetAddr ∧ it'.msg = none := by
        rcases ih found with before | ⟨it', inside, marks⟩
        · exact .inl (same ▸ before)
        · exact .inr ⟨it', List.mem_cons_of_mem _ inside, marks⟩
      unfold loop at found
      split_ifs at found with target same marker this
      · exact later found rfl
      · rcases ih found with here | ⟨it', inside, marks⟩
        · exact .inr ⟨it, List.mem_cons_self, Option.some.inj here, target, marker⟩
        · exact .inr ⟨it', List.mem_cons_of_mem _ inside, marks⟩
      · exact .inl found
      · exact later found rfl
      · exact later found rfl

theorem loop_finalTimer (found : (loop tmr scan tmrs).finalTimer = false) : scan.finalTimer = false ∨
      ∃ it ∈ tmrs, it.ptr ≠ tmr.ptr ∧ it.targetAddr = tmr.targetAddr ∧ it.msg.isSome := by
  induction tmrs generalizing scan with
  | nil => exact .inl found
  | cons it rest ih =>
      have later {scan' : TimerScan} (found : (loop tmr scan' rest).finalTimer = false)
          (same : scan'.finalTimer = scan.finalTimer) : scan.finalTimer = false ∨
          ∃ it' ∈ it :: rest, it'.ptr ≠ tmr.ptr ∧ it'.targetAddr = tmr.targetAddr ∧
            it'.msg.isSome := by
        rcases ih found with before | ⟨it', inside, waits⟩
        · exact .inl (same ▸ before)
        · exact .inr ⟨it', List.mem_cons_of_mem _ inside, waits⟩
      unfold loop at found
      split_ifs at found with target same marker this
      · exact later found rfl
      · exact later found rfl
      · exact .inr ⟨it, List.mem_cons_self, same, target, Option.isSome_iff_ne_none.mpr marker⟩
      · exact .inr ⟨it, List.mem_cons_self, same, target, Option.isSome_iff_ne_none.mpr marker⟩
      · exact later found rfl

end TimerScan

namespace AddressResolution

variable {s s' : AddressResolution} {now : SimTime} {tmr : NDARTimer}

/-- A timer for the address is in the list and its message is on the way. -/
def Outstanding (s : AddressResolution) (addr : Ipv6Addr) : Prop :=
  ∃ tmr ∈ s.tmrs, tmr.targetAddr = addr ∧ tmr.msg.isSome

/-- Every address with packets in the queue has an outstanding timer. -/
def Resolving (s : AddressResolution) : Prop := ∀ p ∈ s.ppq, s.Outstanding p.1

/-- Objects are told apart by their pointers, and new pointers are new. -/
structure Consistent (s : AddressResolution) : Prop where
  fresh : s.cds.Fresh
  nodup : (s.tmrs.map (·.ptr)).Nodup
  bound : ∀ tmr ∈ s.tmrs, tmr.ptr < s.next

/-- What is done for the packets and the timers of one address: they are gone or wait for
a timer, and no other address loses its timer. -/
structure Settles (addr : Ipv6Addr) (s s' : AddressResolution) : Prop where
  others : ∀ other ≠ addr, s.Outstanding other → s'.Outstanding other
  ppq : ∀ p ∈ s'.ppq, p ∈ s.ppq
  settled : (∀ p ∈ s'.ppq, p.1 ≠ addr) ∨ s'.Outstanding addr

variable {addr : Ipv6Addr}

theorem Settles.resolving (settles : Settles addr s s')
    (waits : ∀ p ∈ s.ppq, p.1 ≠ addr → s.Outstanding p.1) : s'.Resolving := by
  intro p inside
  by_cases same : p.1 = addr
  · rcases settles.settled with gone | outstanding
    · exact absurd same (gone p inside)
    · exact same ▸ outstanding
  · exact settles.others p.1 same (waits p (settles.ppq p inside) same)

theorem Consistent.eq_of_ptr (consistent : s.Consistent) {it it' : NDARTimer} (inside : it ∈ s.tmrs)
    (inside' : it' ∈ s.tmrs) (same : it.ptr = it'.ptr) : it = it' :=
  List.inj_on_of_nodup_map consistent.nodup inside inside' same

theorem Consistent.sublist (consistent : s.Consistent) (tmrs : s'.tmrs.Sublist s.tmrs)
    (next : s'.next = s.next) (fresh : s'.cds.Fresh) : s'.Consistent where
  fresh := fresh
  nodup := consistent.nodup.sublist (tmrs.map _)
  bound := fun tmr inside => next ▸ consistent.bound tmr (tmrs.subset inside)

theorem eraseTmr_sublist (s : AddressResolution) (it : Option Ptr) : (s.eraseTmr it).tmrs.Sublist s.tmrs := by
  cases it with
  | none => exact List.Sublist.refl _
  | some p => exact List.eraseP_sublist

theorem mem_eraseTmr {it : Option Ptr} (inside : tmr ∈ s.tmrs) (apart : it ≠ some tmr.ptr) :
    tmr ∈ (s.eraseTmr it).tmrs := by
  cases it with
  | none => exact inside
  | some p =>
      refine (List.mem_eraseP_of_neg ?_).mpr inside
      intro same
      exact apart (congrArg some (of_decide_eq_true same).symm)

@[simp] theorem eraseTmr_ppq (s : AddressResolution) (it : Option Ptr) : (s.eraseTmr it).ppq = s.ppq := by
  cases it <;> rfl

@[simp] theorem eraseTmr_cds (s : AddressResolution) (it : Option Ptr) : (s.eraseTmr it).cds = s.cds := by
  cases it <;> rfl

@[simp] theorem eraseTmr_next (s : AddressResolution) (it : Option Ptr) : (s.eraseTmr it).next = s.next := by
  cases it <;> rfl

theorem failedAddrRes_settles (consistent : s.Consistent)
    (own : ∀ it ∈ s.tmrs, it.ptr = tmr.ptr → it.targetAddr = tmr.targetAddr)
    (done : s.failedAddrRes now tmr = .ok s') : s'.Consistent ∧ Settles tmr.targetAddr s s' := by
  unfold failedAddrRes at done
  dsimp only at done
  set scan := TimerScan.loop tmr ⟨true, none, none⟩ s.tmrs with scanned
  have kept {it : NDARTimer} (inside : it ∈ s.tmrs) (apart : it.ptr ≠ tmr.ptr) :
      it ∈ (s.eraseTmr scan.thisTmr).tmrs := by
    refine mem_eraseTmr inside fun this => ?_
    rcases TimerScan.loop_thisTmr this with none | same
    · cases none
    · exact apart same
  by_cases final : scan.finalTimer = true
  · rw [if_pos final] at done
    obtain ⟨sent, -, done⟩ := bind_eq_ok.mp done
    cases done
    refine ⟨consistent.sublist ?_ ?_ ?_, ?_, ?_, .inl ?_⟩
    · exact (eraseTmr_sublist _ _).trans (eraseTmr_sublist _ _)
    · simp only [eraseQueued, eraseTmr_next]
    · simp only [eraseTmr_cds]
      split
      · exact consistent.fresh.removeDestEntryByNeighbour _
      · exact consistent.fresh
    · rintro other apart ⟨it, inside, target, waits⟩
      have unlike : it.targetAddr ≠ tmr.targetAddr := target ▸ apart
      refine ⟨it, mem_eraseTmr (kept inside (mt (own it inside) unlike)) ?_, target, waits⟩
      intro removed
      rcases TimerScan.loop_startRemove removed with none | ⟨marker, found, same, marks, -⟩
      · cases none
      · exact unlike (consistent.eq_of_ptr inside found same.symm ▸ marks)
    · intro p inside
      have inside := List.mem_of_mem_filter inside
      rwa [eraseTmr_ppq, eraseTmr_ppq] at inside
    · intro p inside
      exact of_decide_eq_true (List.mem_filter.mp inside).2
  · rw [if_neg final] at done
    cases done
    refine ⟨consistent.sublist (eraseTmr_sublist _ _) (eraseTmr_next _ _) ?_, ?_, ?_, .inr ?_⟩
    · rw [eraseTmr_cds]
      exact consistent.fresh
    · rintro other apart ⟨it, inside, target, waits⟩
      exact ⟨it, kept inside (mt (own it inside) (target ▸ apart)), target, waits⟩
    · intro p inside
      rwa [eraseTmr_ppq] at inside
    · rcases TimerScan.loop_finalTimer (Bool.not_eq_true _ ▸ final) with none | ⟨it, inside, waits⟩
      · cases none
      · exact ⟨it, kept inside waits.1, waits.2⟩

theorem retransmit_settles (consistent : s.Consistent) (listed : tmr ∈ s.tmrs)
    (done : s.retransmit now tmr = .ok s') : s'.Consistent ∧ Settles tmr.targetAddr s s' := by
  unfold retransmit at done
  split at done
  · obtain ⟨ie, -, done⟩ := bind_eq_ok.mp done
    cases done
    set restart : NDARTimer → NDARTimer := fun it =>
      if it.ptr = tmr.ptr then
        { it with counter := it.counter + 1, msg := some (now + ie.retransTimer / 1000) }
      else it with restarted
    have ptr (it : NDARTimer) : (restart it).ptr = it.ptr := by
      rw [restarted]
      dsimp only
      split <;> rfl
    have target (it : NDARTimer) : (restart it).targetAddr = it.targetAddr := by
      rw [restarted]
      dsimp only
      split <;> rfl
    have waits (it : NDARTimer) (waits : it.msg.isSome) : (restart it).msg.isSome := by
      rw [restarted]
      dsimp only
      split
      · rfl
      · exact waits
    have ptrs : (s.tmrs.map restart).map (·.ptr) = s.tmrs.map (·.ptr) := by
      rw [List.map_map]
      exact List.map_congr_left fun it _ => ptr it
    refine ⟨⟨consistent.fresh, ?_, ?_⟩, ?_, fun p inside => inside, .inr ?_⟩
    · exact ptrs ▸ consistent.nodup
    · intro it inside
      obtain ⟨old, stored, rfl⟩ := List.mem_map.mp inside
      rw [ptr]
      exact consistent.bound old stored
    · rintro other - ⟨it, inside, same, outstanding⟩
      exact ⟨restart it, List.mem_map_of_mem inside, (target it).trans same, waits it outstanding⟩
    · refine ⟨restart tmr, List.mem_map_of_mem listed, target tmr, ?_⟩
      rw [restarted]
      dsimp only
      rw [if_pos rfl]
      rfl
  · refine failedAddrRes_settles consistent (fun it inside same => ?_) done
    rw [consistent.eq_of_ptr inside listed same]

theorem sendNgbrSol_timeout (consistent : s.Consistent) (listed : tmr ∈ s.tmrs)
    (fired : tmr.msg.isSome) (done : s.sendNgbrSol now tmr = .ok s') :
    s'.Consistent ∧ Settles tmr.targetAddr s s' := by
  obtain ⟨_, -, done⟩ := bind_eq_ok.mp done
  obtain ⟨time, set⟩ := Option.isSome_iff_exists.mp fired
  rw [set] at done
  exact retransmit_settles consistent listed done

theorem chooseSource_eq_some {tmr' : NDARTimer} {ie : InterfaceEntry} (chosen : tmr.chooseSource ie = some tmr') :
    tmr'.ptr = tmr.ptr ∧ tmr'.targetAddr = tmr.targetAddr := by
  unfold NDARTimer.chooseSource at chosen
  split at chosen
  · cases chosen
    exact ⟨rfl, rfl⟩
  · obtain ⟨_, -, rfl⟩ := Option.map_eq_some_iff.mp chosen
    exact ⟨rfl, rfl⟩

/-- A new timer joins the list. -/
theorem Consistent.append (consistent : s.Consistent) (fresh : ∀ it ∈ s.tmrs, it.ptr ≠ tmr.ptr)
    (bound : tmr.ptr < s.next) : { s with tmrs := s.tmrs ++ [tmr] }.Consistent where
  fresh := consistent.fresh
  nodup := by
    rw [List.map_append, List.nodup_append]
    refine ⟨consistent.nodup, List.nodup_singleton _, ?_⟩
    intro p inside p' new
    obtain ⟨it, stored, rfl⟩ := List.mem_map.mp inside
    rw [List.mem_singleton.mp new]
    exact fresh it stored
  bound := by
    intro it inside
    rcases List.mem_append.mp inside with old | new
    · exact consistent.bound it old
    · exact List.mem_singleton.mp new ▸ bound

theorem outstanding_append (outstanding : s.Outstanding addr) :
    { s with tmrs := s.tmrs ++ [tmr] }.Outstanding addr := by
  obtain ⟨it, inside, waits⟩ := outstanding
  exact ⟨it, List.mem_append_left _ inside, waits⟩

theorem sendNgbrSol_new (consistent : s.Consistent) (fresh : ∀ it ∈ s.tmrs, it.ptr ≠ tmr.ptr)
    (bound : tmr.ptr < s.next) (new : tmr.msg = none) (done : s.sendNgbrSol now tmr = .ok s') :
    s'.Consistent ∧ Settles tmr.targetAddr s s' := by
  obtain ⟨_, -, done⟩ := bind_eq_ok.mp done
  rw [new] at done
  obtain ⟨ie, -, done⟩ := bind_eq_ok.mp done
  split at done
  · exact failedAddrRes_settles consistent (fun it inside same => absurd same (fresh it inside)) done
  · rename_i chosen choice
    obtain ⟨ptr, target⟩ := chooseSource_eq_some choice
    obtain ⟨after, settles⟩ := retransmit_settles
      (consistent.append (ptr ▸ fresh) (ptr ▸ bound)) (List.mem_append_right _ List.mem_cons_self) done
    refine ⟨after, fun other apart outstanding => ?_, settles.ppq, ?_⟩
    · exact settles.others other (target ▸ apart) (outstanding_append outstanding)
    · exact target ▸ settles.settled

/-- The solicitations on all interfaces of a promiscuous address resolution. -/
theorem solicitAll_resolving {ifIndexes : List Nat} (consistent : s.Consistent)
    (waits : ∀ p ∈ s.ppq, p.1 ≠ tmr.targetAddr → s.Outstanding p.1)
    (done : ifIndexes.foldlM
      (fun s ifIndex => { s with next := s.next + 1 }.sendNgbrSol now (tmr.dup s.next ifIndex)) s =
        .ok s') :
    s'.Consistent ∧ (ifIndexes ≠ [] ∨ s.Resolving → s'.Resolving) := by
  induction ifIndexes generalizing s with
  | nil =>
      cases done
      exact ⟨consistent, fun some => some.resolve_left (absurd rfl)⟩
  | cons ifIndex rest ih =>
      rw [List.foldlM_cons] at done
      obtain ⟨middle, solicited, done⟩ := bind_eq_ok.mp done
      have later : { s with next := s.next + 1 }.Consistent :=
        ⟨consistent.fresh, consistent.nodup,
          fun it inside => Nat.lt_succ_of_lt (consistent.bound it inside)⟩
      obtain ⟨after, settles⟩ := sendNgbrSol_new later
        (fun it inside => Nat.ne_of_lt (consistent.bound it inside)) (Nat.lt_succ_self _) rfl solicited
      have resolving : middle.Resolving := settles.resolving waits
      obtain ⟨last, resolved⟩ := ih after (fun p inside _ => resolving p inside) done
      exact ⟨last, fun _ => resolved (.inr resolving)⟩

/-- A known interface, or at least one to try. -/
def Solicits (s : AddressResolution) (ifIndex : Nat) : Prop :=
  ifIndex ≠ uintMax ∨ s.interfaces ≠ []

theorem initiateNgbrSol_resolving (consistent : s.Consistent)
    (fresh : ∀ it ∈ s.tmrs, it.ptr ≠ tmr.ptr) (bound : tmr.ptr < s.next) (new : tmr.msg = none)
    (waits : ∀ p ∈ s.ppq, p.1 ≠ tmr.targetAddr → s.Outstanding p.1) (done : s.initiateNgbrSol now tmr = .ok s') :
    s'.Consistent ∧ (s.Solicits tmr.ifIndex ∨ s.Resolving → s'.Resolving) := by
  unfold initiateNgbrSol at done
  split at done
  · rename_i promiscuous
    obtain ⟨after, resolved⟩ := solicitAll_resolving (consistent.append fresh bound)
      (fun p inside apart => outstanding_append (waits p inside apart)) done
    refine ⟨after, fun some => resolved ?_⟩
    rcases some with (known | interfaces) | resolving
    · exact absurd promiscuous known
    · refine .inl fun none => interfaces ?_
      exact List.length_eq_zero_iff.mp (List.range_eq_nil.mp none)
    · exact .inr fun p inside => outstanding_append (resolving p inside)
  · obtain ⟨after, settles⟩ := sendNgbrSol_new consistent fresh bound new done
    exact ⟨after, fun _ => settles.resolving waits⟩

variable {src : Ipv6Addr} {ifIndex : Nat}

theorem sendQueuedPackets_eq_ok {ne : NeighbourEntry} (done : s.sendQueuedPackets src ifIndex ne = .ok s') :
    ∃ sent, s' = { s.eraseQueued src with sent } := by
  obtain ⟨sent, -, done⟩ := bind_eq_ok.mp done
  cases done
  exact ⟨_, rfl⟩

theorem Resolving.eraseQueued (resolving : s.Resolving) (addr : Ipv6Addr) : (s.eraseQueued addr).Resolving :=
  fun p inside => resolving p (List.mem_of_mem_filter inside)

theorem sendQueuedPackets_resolving {ne : NeighbourEntry} (consistent : s.Consistent) (resolving : s.Resolving)
    (done : s.sendQueuedPackets src ifIndex ne = .ok s') : s'.Consistent ∧ s'.Resolving := by
  obtain ⟨sent, rfl⟩ := sendQueuedPackets_eq_ok done
  exact ⟨⟨consistent.fresh, consistent.nodup, consistent.bound⟩, resolving.eraseQueued src⟩

theorem cancelPromiscuous_ok {tmrs rest : List NDARTimer} (done : cancelPromiscuous src tmrs = .ok rest) :
    rest.Sublist tmrs ∧ ∀ it ∈ tmrs, it.targetAddr ≠ src → it ∈ rest := by
  induction tmrs with
  | nil =>
      cases done
      exact ⟨List.Sublist.refl _, fun it inside _ => inside⟩
  | cons tmr tmrs ih =>
      unfold cancelPromiscuous at done
      split at done
      · rename_i target
        obtain ⟨_, -, done⟩ := bind_eq_ok.mp done
        obtain ⟨fewer, kept⟩ := ih done
        refine ⟨fewer.cons _, fun it inside apart => ?_⟩
        rcases List.mem_cons.mp inside with rfl | inside
        · exact absurd target apart
        · exact kept it inside apart
      · cases done
        exact ⟨List.Sublist.refl _, fun it inside _ => inside⟩

/-- Only timers of the sender are cancelled. -/
theorem cancelAddrRes_ok {tmrs rest : List NDARTimer} (done : cancelAddrRes src tmrs = .ok rest) :
    rest.Sublist tmrs ∧ ∀ it ∈ tmrs, it.targetAddr ≠ src → it ∈ rest := by
  induction tmrs generalizing rest with
  | nil =>
      cases done
      exact ⟨List.Sublist.refl _, fun it inside _ => inside⟩
  | cons tmr tmrs ih =>
      unfold cancelAddrRes at done
      by_cases target : tmr.targetAddr = src
      · have others {rest : List NDARTimer} (kept : ∀ it ∈ tmrs, it.targetAddr ≠ src → it ∈ rest) :
            ∀ it ∈ tmr :: tmrs, it.targetAddr ≠ src → it ∈ rest := by
          intro it inside apart
          rcases List.mem_cons.mp inside with rfl | inside
          · exact absurd target apart
          · exact kept it inside apart
        rw [if_pos target] at done
        split at done
        · obtain ⟨_, -, done⟩ := bind_eq_ok.mp done
          obtain ⟨fewer, kept⟩ := cancelPromiscuous_ok done
          exact ⟨fewer.cons _, others kept⟩
        · obtain ⟨_, -, done⟩ := bind_eq_ok.mp done
          cases done
          exact ⟨List.sublist_cons_self _ _, others fun it inside _ => inside⟩
      · rw [if_neg target] at done
        obtain ⟨cancelled, others, same⟩ := bind_eq_ok.mp done
        cases same
        obtain ⟨fewer, kept⟩ := ih others
        refine ⟨fewer.cons_cons _, fun it inside apart => ?_⟩
        rcases List.mem_cons.mp inside with rfl | inside
        · exact List.mem_cons_self
        · exact List.mem_cons_of_mem _ (kept it inside apart)

theorem processNgbrAd_resolving {ngbrAdv : NgbrAd} (consistent : s.Consistent)
    (resolving : s.Resolving) (done : s.processNgbrAd ngbrAdv = .ok s') : s'.Consistent ∧ s'.Resolving := by
  unfold processNgbrAd at done
  dsimp only at done
  split at done
  · cases done
    exact ⟨consistent, resolving⟩
  · rename_i p ne live
    split at done
    · obtain ⟨flushed, sent, done⟩ := bind_eq_ok.mp done
      obtain ⟨tmrs, cancelled, done⟩ := bind_eq_ok.mp done
      cases done
      obtain ⟨_, rfl⟩ := sendQueuedPackets_eq_ok sent
      obtain ⟨fewer, kept⟩ := cancelAddrRes_ok cancelled
      have fresh := consistent.fresh.modify p
        fun _ => { (ne.updateNgbrAd ngbrAdv).2 with interfaceNo := ngbrAdv.inputPort }
      refine ⟨⟨fresh, ?_, ?_⟩, fun q inside => ?_⟩
      · exact consistent.nodup.sublist (fewer.map _)
      · exact fun it inside => consistent.bound it (fewer.subset inside)
      obtain ⟨queued, apart⟩ := List.mem_filter.mp inside
      obtain ⟨it, listed, target, waits⟩ := resolving q queued
      exact ⟨it, kept it listed (target ▸ of_decide_eq_true apart), target, waits⟩
    · cases done
      have fresh := consistent.fresh.modify p fun _ => (ne.updateNgbrAd ngbrAdv).2
      exact ⟨⟨fresh, consistent.nodup, consistent.bound⟩, resolving⟩

variable {ngbrSol : NgbrSol}

/-- A solicitation changes the conceptual data structures only. -/
theorem updateSender_ok {waiting : Option Ptr} (consistent : s.Consistent)
    (done : s.updateSender ngbrSol = .ok (waiting, s')) : s'.cds.Fresh ∧ s' = { s with cds := s'.cds } := by
  unfold updateSender at done
  dsimp only at done
  split_ifs at done with silent
  · cases done
    exact ⟨consistent.fresh, rfl⟩
  · split at done
    · rename_i p ne live
      cases done
      exact ⟨consistent.fresh.modify p (·.updateNgbrSol ngbrSol), rfl⟩
    · split at done
      · rename_i p re router
        obtain ⟨_, -, done⟩ := bind_eq_ok.mp done
        cases done
        exact ⟨(consistent.fresh.setDestEntry _ _).modify p (·.updateNgbrSol ngbrSol), rfl⟩
      · cases done
        exact ⟨consistent.fresh.insertNeighbourEntry (.ofNgbrSol ngbrSol), rfl⟩

theorem sendNgbrAd_eq_ok {ie : InterfaceEntry} {override : Bool}
    (done : s.sendNgbrAd ngbrSol ie override = .ok s') : ∃ sent, s' = { s with sent } := by
  obtain ⟨_, -, done⟩ := bind_eq_ok.mp done
  cases done
  exact ⟨_, rfl⟩

theorem processNgbrSol_resolving (consistent : s.Consistent)
    (resolving : s.Resolving) (done : s.processNgbrSol ngbrSol = .ok s') : s'.Consistent ∧ s'.Resolving := by
  obtain ⟨_, -, done⟩ := bind_eq_ok.mp done
  obtain ⟨ie, -, done⟩ := bind_eq_ok.mp done
  obtain ⟨⟨waiting, updated⟩, sender, done⟩ := bind_eq_ok.mp done
  obtain ⟨fresh, same⟩ := updateSender_ok consistent sender
  have after : updated.Consistent ∧ updated.Resolving := by
    rw [same]
    exact ⟨⟨fresh, consistent.nodup, consistent.bound⟩, resolving⟩
  dsimp only at done
  split_ifs at done with answers
  · obtain ⟨answered, advertised, done⟩ := bind_eq_ok.mp done
    obtain ⟨sent, rfl⟩ := sendNgbrAd_eq_ok advertised
    have advertises : { updated with sent }.Consistent :=
      ⟨after.1.fresh, after.1.nodup, after.1.bound⟩
    split at done
    · cases done
      exact ⟨advertises, after.2⟩
    · obtain ⟨ne, -, done⟩ := bind_eq_ok.mp done
      exact sendQueuedPackets_resolving advertises after.2 done
  · cases done
    exact after

/-- The neighbour that a next hop has, or else the router of that address. -/
def resolvedNeighbour (s : AddressResolution) (nextHop : Ipv6Addr) : Option NeighbourEntry :=
  (s.cds.lock (s.cds.neighbour nextHop)).or (s.cds.lock ((s.cds.router nextHop).map (·.1)))

theorem defaultRouterNeighbour_ok {targetAddr : Ipv6Addr} {ngbr : Option Ptr}
    (done : s.defaultRouterNeighbour targetAddr = .ok (ngbr, s')) :
    (∃ destCache, s' = { s with cds := { s.cds with destCache } }) ∧
      (s.cds.lock ngbr).or (s.cds.lock ((s.cds.router targetAddr).map (·.1))) =
        s.resolvedNeighbour targetAddr := by
  unfold defaultRouterNeighbour at done
  dsimp only at done
  split_ifs at done with dead
  · split at done
    · rename_i p re first
      split_ifs at done with target
      cases done
      refine ⟨⟨_, rfl⟩, ?_⟩
      have router : s.cds.router targetAddr = some (p, re) := by
        obtain ⟨rest, routers⟩ := List.head?_eq_some_iff.mp first
        unfold IPv6CDS.router
        simp only [routers, List.find?_cons, target, decide_true]
      unfold resolvedNeighbour
      rw [router, Option.isNone_iff_eq_none.mp dead.2, Option.none_or, Option.map_some,
        Option.or_self]
    · cases done
      exact ⟨⟨_, rfl⟩, rfl⟩
  · cases done
    exact ⟨⟨_, rfl⟩, rfl⟩

theorem nextHopNeighbour_ok {nextHop : Ipv6Addr} {ngbr : Option Ptr}
    (fresh : s.cds.Fresh) (done : s.nextHopNeighbour nextHop ifIndex = .ok (ngbr, s')) :
    s'.cds.Fresh ∧ s' = { s with cds := s'.cds } ∧
      s'.cds.lock ngbr =
        some ((s.resolvedNeighbour nextHop).getD (.create nextHop ifIndex)) := by
  obtain ⟨⟨ngbr', middle⟩, router, done⟩ := bind_eq_ok.mp done
  obtain ⟨⟨destCache, rfl⟩, resolved⟩ := defaultRouterNeighbour_ok router
  rw [← resolved]
  dsimp only at done
  have same (weak : Option Ptr) : { s.cds with destCache }.lock weak = s.cds.lock weak := rfl
  have list : { s.cds with destCache }.router nextHop = s.cds.router nextHop := rfl
  rw [list, same, same] at done
  have still : { s.cds with destCache }.Fresh := ⟨fresh.routers, fresh.neighbours, fresh.held⟩
  cases live : s.cds.lock ngbr' with
  | some ne =>
      simp only [live, Option.isNone_some, Bool.false_eq_true, if_false] at done
      cases done
      exact ⟨still, rfl, live⟩
  | none =>
      rw [live] at done
      cases listed : s.cds.lock ((s.cds.router nextHop).map (·.1)) with
      | some ne =>
          simp only [Option.isNone_none, if_true, listed, Option.isNone_some, Bool.false_eq_true,
            if_false] at done
          cases done
          exact ⟨still, rfl, listed⟩
      | none =>
          simp only [Option.isNone_none, if_true, listed] at done
          cases done
          exact ⟨still.insertNeighbourEntry _, rfl, still.lock_insertNeighbourEntry _⟩

/-- The neighbour of a next hop, or the new one, has that address unless it is to be
solicited. -/
def Resolvable (s : AddressResolution) (nextHop : Ipv6Addr) (ifIndex : Nat) : Prop :=
  let ne := (s.resolvedNeighbour nextHop).getD (.create nextHop ifIndex)
  if ne.state = .incomplete then s.Solicits ifIndex else ne.unicastAddr = nextHop

theorem mem_ppq_of_queued {p : IPv6Datagram} (queued : p ∈ s.queued addr) : (addr, p) ∈ s.ppq := by
  obtain ⟨⟨key, _⟩, inside, rfl⟩ := List.mem_map.mp queued
  obtain ⟨inside, same⟩ := List.mem_filter.mp inside
  exact of_decide_eq_true same ▸ inside

variable {dgram : IPv6Datagram}

/-- A second datagram finds the first in the queue. -/
theorem queued_of_length {nextHop : Ipv6Addr}
    (more : 1 < ({ s with ppq := s.ppq ++ [(nextHop, dgram)] }.queued nextHop).length) :
    ∃ p, (nextHop, p) ∈ s.ppq := by
  have split : { s with ppq := s.ppq ++ [(nextHop, dgram)] }.queued nextHop =
      s.queued nextHop ++ [dgram] := by
    simp only [queued, List.filter_append, List.map_append, List.filter_cons, decide_true, if_true,
      List.filter_nil, List.map_cons, List.map_nil]
  rw [split, List.length_append, List.length_singleton] at more
  cases earlier : s.queued nextHop with
  | nil =>
      rw [earlier, List.length_nil] at more
      omega
  | cons p rest => exact ⟨p, mem_ppq_of_queued (earlier ▸ List.mem_cons_self)⟩

variable {addrResInfo : AddrResInfo}

/-- A pending datagram waits for the one before it, is sent to the neighbour with the
others of that neighbour's address, or starts an address resolution. -/
theorem pendingQueueIn_eq_ok (fresh : s.cds.Fresh) (done : s.pendingQueueIn now dgram addrResInfo = .ok s') :
    let nextHop := addrResInfo.nextHop
    let queue := s.ppq ++ [(nextHop, dgram)]
    let ne := (s.resolvedNeighbour nextHop).getD (.create nextHop addrResInfo.ifIndex)
    ((∃ p, (nextHop, p) ∈ s.ppq) ∧ s' = { s with ppq := queue }) ∨
      ∃ cds : IPv6CDS, cds.Fresh ∧
        ((ne.state ≠ .incomplete ∧
            ∃ sent, s' = { { s with cds, ppq := queue }.eraseQueued ne.unicastAddr with sent }) ∨
          (ne.state = .incomplete ∧
            { s with cds, ppq := queue, next := s.next + 1 }.initiateNgbrSol now
              (.create s.next nextHop addrResInfo.ifIndex dgram.srcAddress) = .ok s')) := by
  intro nextHop queue ne
  obtain ⟨_, -, done⟩ := bind_eq_ok.mp done
  dsimp only at done
  split_ifs at done with more
  · cases done
    exact .inl ⟨queued_of_length more, rfl⟩
  · obtain ⟨⟨ngbr, found⟩, neighbour, done⟩ := bind_eq_ok.mp done
    obtain ⟨still, same, lock⟩ := nextHopNeighbour_ok (s := { s with ppq := queue }) fresh neighbour
    obtain ⟨ne', live, done⟩ := bind_eq_ok.mp done
    rw [deref_eq_ok] at live
    dsimp only at live done still same
    have resolved : ne = ne' := Option.some.inj (lock.symm.trans live)
    rw [same] at done
    refine .inr ⟨found.cds, still, ?_⟩
    rw [resolved]
    split at done
    · rename_i state
      exact .inl ⟨state, sendQueuedPackets_eq_ok done⟩
    · rename_i state
      exact .inr ⟨not_not.mp state, done⟩

/-- The datagrams that are queued without stranding any. -/
def Accepts (s : AddressResolution) (nextHop : Ipv6Addr) (ifIndex : Nat) : Prop :=
  s.Outstanding nextHop ∨ s.Resolvable nextHop ifIndex

theorem pendingQueueIn_resolving (consistent : s.Consistent) (resolving : s.Resolving)
    (accepts : s.Accepts addrResInfo.nextHop addrResInfo.ifIndex)
    (done : s.pendingQueueIn now dgram addrResInfo = .ok s') : s'.Consistent ∧ s'.Resolving := by
  have waits : ∀ p ∈ s.ppq ++ [(addrResInfo.nextHop, dgram)], p.1 ≠ addrResInfo.nextHop →
      s.Outstanding p.1 := by
    intro p inside apart
    rcases List.mem_append.mp inside with old | new
    · exact resolving p old
    · exact absurd (congrArg Prod.fst (List.mem_singleton.mp new)) apart
  have all (outstanding : s.Outstanding addrResInfo.nextHop) :
      ∀ p ∈ s.ppq ++ [(addrResInfo.nextHop, dgram)], s.Outstanding p.1 := by
    intro p inside
    by_cases same : p.1 = addrResInfo.nextHop
    · exact same ▸ outstanding
    · exact waits p inside same
  rcases pendingQueueIn_eq_ok consistent.fresh done with
    ⟨⟨p, inside⟩, rfl⟩ | ⟨cds, fresh, ⟨state, sent, rfl⟩ | ⟨state, solicits⟩⟩
  · exact ⟨⟨consistent.fresh, consistent.nodup, consistent.bound⟩, all (resolving _ inside)⟩
  · refine ⟨⟨fresh, consistent.nodup, consistent.bound⟩, fun p inside => ?_⟩
    obtain ⟨inside, apart⟩ := List.mem_filter.mp inside
    rcases accepts with outstanding | resolvable
    · exact all outstanding p inside
    · unfold Resolvable at resolvable
      dsimp only at resolvable
      rw [if_neg state] at resolvable
      exact waits p inside (resolvable ▸ of_decide_eq_true apart)
  · have later : { s with
        cds, ppq := s.ppq ++ [(addrResInfo.nextHop, dgram)], next := s.next + 1 }.Consistent :=
      ⟨fresh, consistent.nodup, fun it inside => Nat.lt_succ_of_lt (consistent.bound it inside)⟩
    obtain ⟨last, resolves⟩ := initiateNgbrSol_resolving later
      (fun it inside => Nat.ne_of_lt (consistent.bound it inside)) (Nat.lt_succ_self _) rfl waits
      solicits
    refine ⟨last, resolves ?_⟩
    rcases accepts with outstanding | resolvable
    · exact .inr (all outstanding)
    · unfold Resolvable at resolvable
      dsimp only at resolvable
      rw [if_pos state] at resolvable
      exact .inl resolvable

/-- Any other datagram is left in the queue without a timer. -/
theorem accepts_of_resolving (consistent : s.Consistent) (resolving : s.Resolving)
    (done : s.pendingQueueIn now dgram addrResInfo = .ok s') (resolved : s'.Resolving) :
    s.Accepts addrResInfo.nextHop addrResInfo.ifIndex := by
  by_contra strands
  obtain ⟨alone, unresolvable⟩ := not_or.mp strands
  unfold Resolvable at unresolvable
  dsimp only at unresolvable
  have queued : (addrResInfo.nextHop, dgram) ∈ s.ppq ++ [(addrResInfo.nextHop, dgram)] :=
    List.mem_append_right _ List.mem_cons_self
  rcases pendingQueueIn_eq_ok consistent.fresh done with
    ⟨⟨p, inside⟩, rfl⟩ | ⟨cds, fresh, ⟨state, sent, rfl⟩ | ⟨state, solicits⟩⟩
  · exact alone (resolving _ inside)
  · rw [if_neg state] at unresolvable
    exact alone (resolved _ (List.mem_filter.mpr ⟨queued, decide_eq_true (Ne.symm unresolvable)⟩))
  · rw [if_pos state] at unresolvable
    obtain ⟨promiscuous, none⟩ := not_or.mp unresolvable
    have marks : (NDARTimer.create s.next addrResInfo.nextHop addrResInfo.ifIndex
        dgram.srcAddress).ifIndex = uintMax := not_not.mp promiscuous
    unfold initiateNgbrSol at solicits
    rw [if_pos marks, not_not.mp none] at solicits
    cases solicits
    obtain ⟨it, inside, target, waits⟩ := resolved _ queued
    rcases List.mem_append.mp inside with old | marker
    · exact alone ⟨it, old, target, waits⟩
    · rw [List.mem_singleton.mp marker] at waits
      cases waits

/-- Every datagram that comes to the queue is accepted. -/
def Admits (s : AddressResolution) (msg : SimTime × AddrResEvent) : Prop :=
  match msg.2 with
  | .pendingQueueIn _ addrResInfo => s.Accepts addrResInfo.nextHop addrResInfo.ifIndex
  | .ngbrSol _ | .ngbrAd _ | .timeout _ | .node _ _ _ => True

theorem handleMessage_resolving {msg : SimTime × AddrResEvent} (consistent : s.Consistent)
    (resolving : s.Resolving) (admits : s.Admits msg) (done : s.handleMessage msg = .ok s') :
    s'.Consistent ∧ s'.Resolving := by
  obtain ⟨now, event⟩ := msg
  cases event with
  | pendingQueueIn dgram addrResInfo =>
      exact pendingQueueIn_resolving consistent resolving admits done
  | ngbrSol ngbrSol => exact processNgbrSol_resolving consistent resolving done
  | ngbrAd ngbrAdv => exact processNgbrAd_resolving consistent resolving done
  | timeout p =>
      obtain ⟨tmr, found, done⟩ := bind_eq_ok.mp done
      rw [deref_eq_ok] at found
      have matched := List.find?_some found
      have fired : tmr.ptr = p ∧ tmr.msg.isSome := of_decide_eq_true matched
      obtain ⟨after, settles⟩ := sendNgbrSol_timeout consistent (List.mem_of_find?_eq_some found)
        fired.2 done
      exact ⟨after, settles.resolving fun p inside _ => resolving p inside⟩
  | node cds fresh interfaces =>
      cases done
      exact ⟨⟨fresh, consistent.nodup, consistent.bound⟩, resolving⟩

/-- In a run that admits what it handles, no packet is left in the queue without an
outstanding timer. -/
theorem queued_outstanding_of_admits {events : List (SimTime × AddrResEvent)}
    (fresh : s.cds.Fresh) (noPackets : s.ppq = []) (noTimers : s.tmrs = [])
    (runs : Runs handleMessage Admits s events s') :
    ∀ addr, s'.queued addr ≠ [] → s'.Outstanding addr := by
  have start : s.Consistent ∧ s.Resolving := by
    refine ⟨⟨fresh, ?_, ?_⟩, ?_⟩
    · rw [noTimers]
      exact List.nodup_nil
    · rw [noTimers]
      exact fun it inside => absurd inside List.not_mem_nil
    · unfold Resolving
      rw [noPackets]
      exact fun p inside => absurd inside List.not_mem_nil
  have last := runs.invariant (fun s => s.Consistent ∧ s.Resolving)
    (fun _ _ _ inv admits done => handleMessage_resolving inv.1 inv.2 admits done) start
  intro addr packets
  obtain ⟨p, inside⟩ := List.exists_mem_of_ne_nil _ packets
  exact last.2 _ (mem_ppq_of_queued inside)

theorem resolvable_of_unknown {nextHop : Ipv6Addr}
    (unknown : s.resolvedNeighbour nextHop = none) (solicits : s.Solicits ifIndex) :
    s.Resolvable nextHop ifIndex := by
  unfold Resolvable
  rw [unknown]
  exact solicits

def exampleHost (cds : IPv6CDS) : AddressResolution where
  cds
  interfaces := [⟨"00:07", ⟨[⟨⟨⟨0xFE800000, 0, 0, 7⟩, 64⟩, validLifetimeInfinity,
    validLifetimeInfinity, false⟩], []⟩, 1000⟩]
  isRouter := false
  odad := false
  ppq := []
  tmrs := []
  next := 0
  sent := []

/-- A datagram of the host, with the next hop that was determined for it. -/
def examplePending (nextHop : Ipv6Addr) : SimTime × AddrResEvent :=
  (1, .pendingQueueIn (IPv6Datagram.create ⟨0xFE800000, 0, 0, 7⟩ ⟨0x20010db8, 0, 0, 2⟩)
    ⟨nextHop, 0, "", -2⟩)

/-- A neighbour on the link is solicited twice while a datagram waits for it. -/
theorem queued_outstanding_at_neighbour :
    ∃ s', Runs handleMessage Admits (exampleHost .empty)
        [examplePending ⟨0xFE800000, 0, 0, 2⟩, (2, .timeout 0)] s' ∧
      s'.queued ⟨0xFE800000, 0, 0, 2⟩ ≠ [] ∧ ∀ addr, s'.queued addr ≠ [] → s'.Outstanding addr := by
  have unknown : (exampleHost .empty).resolvedNeighbour ⟨0xFE800000, 0, 0, 2⟩ = none := by decide
  have admitted := resolvable_of_unknown unknown (.inl (show 0 ≠ uintMax by decide))
  have runs : Runs handleMessage Admits (exampleHost .empty)
      [examplePending ⟨0xFE800000, 0, 0, 2⟩, (2, .timeout 0)] _ :=
    .cons (.inr admitted) rfl (.cons trivial rfl (.nil _))
  exact ⟨_, runs, by decide, queued_outstanding_of_admits .empty rfl rfl runs⟩

/-- The destination entry of the router `fe80::1` leads to the default router `fe80::3`,
which is reachable. A datagram for the old router is left in the queue, with no timer at
all: the packets of the new one are sent instead. -/
theorem old_router_is_stranded :
    let cds : IPv6CDS :=
      { IPv6CDS.empty with
        routers := [(0, { RouterEntry.create ⟨0xFE800000, 0, 0, 3⟩ 0 (some "00:03") 1800 with
          state := .reachable })]
        destCache := (∅ : StdMap _ _ _).insert (IPv6Address.host ⟨0xFE800000, 0, 0, 1⟩) ⟨some 0, 0⟩
        next := 1 }
    cds.Fresh ∧ ∃ s', run handleMessage (exampleHost cds) [examplePending ⟨0xFE800000, 0, 0, 1⟩] =
        .ok s' ∧
      s'.queued ⟨0xFE800000, 0, 0, 1⟩ ≠ [] ∧ ¬ s'.Outstanding ⟨0xFE800000, 0, 0, 1⟩ := by
  refine ⟨⟨by decide, ?_, by decide⟩, _, rfl, by decide, ?_⟩
  · exact fun addr n stored => absurd (IPv6CDS.Fresh.empty.neighbours addr n stored) (Nat.not_lt_zero _)
  · rintro ⟨it, inside, -⟩
    exact absurd inside List.not_mem_nil

end AddressResolution

end IPv6Suite
