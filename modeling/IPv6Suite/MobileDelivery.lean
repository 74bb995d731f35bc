import IPv6Suite.IPv6LocalDeliver
import IPv6Suite.MIPv6SendPacketCheck
import IPv6Suite.RouteTravel

namespace IPv6Suite

open Lib

/-- An extension header that local delivery passes over -/
structure HdrExtProc.Quiet (proc : HdrExtProc) : Prop where
  whole : proc.type ≠ .fragment
  noOptions : proc.destOpts = []
  visited : ∀ rh ∈ proc.rheads, rh.segmentsLeft = 0

namespace HdrExtProc.Quiet

variable {proc : HdrExtProc} {t : IPv6ExtHeader}

theorem create (whole : t ≠ .fragment) : (HdrExtProc.create t).Quiet :=
  ⟨whole, rfl, nofun⟩

theorem segmentsLeft_dup {rh : HdrExtRte} (visited : rh.segmentsLeft = 0) : rh.dup.segmentsLeft = 0 := by
  unfold HdrExtRte.dup
  split
  · exact visited
  · rfl

theorem dup (quiet : proc.Quiet) : proc.dup.Quiet := by
  refine ⟨?_, ?_, ?_⟩
  · rw [HdrExtProc.type_dup]
    exact quiet.whole
  · unfold HdrExtProc.dup
    split
    · rfl
    · exact quiet.noOptions
    · exact quiet.noOptions
  · unfold HdrExtProc.dup
    split
    · exact nofun
    · intro rh inside
      obtain ⟨before, inside', rfl⟩ := List.mem_map.mp inside
      exact segmentsLeft_dup (quiet.visited before inside')
    · exact quiet.visited

theorem isSegmentsLeft (quiet : proc.Quiet) : proc.isSegmentsLeft = false := by
  unfold HdrExtProc.isSegmentsLeft
  rw [List.any_eq_false]
  intro rh inside left
  exact of_decide_eq_true left (quiet.visited rh inside)

end HdrExtProc.Quiet

namespace IPv6Datagram

variable {d d' : IPv6Datagram} {bc : BindingCache} {j k n i : Nat} {l : Bool} {t : IPv6ExtHeader}

/-! ### The header that is acquired -/

/-- The header `j` is the first one of its type or a new one, and the others are as before. -/
structure Acquires (d d' : IPv6Datagram) (t : IPv6ExtHeader) (j : Nat) : Prop where
  located : ∃ proc, d'.extHdrs[j]? = some proc ∧ proc.type = t ∧
    (proc = HdrExtProc.create t ∧ j = d.extHdrs.length ∨
      d.extHdrs[j]? = some proc ∧ d.types.findIdx? (· = t) = some j)
  others : ∀ i proc, i ≠ j → d'.extHdrs[i]? = some proc → ∃ old, d.extHdrs[i]? = some old ∧
    proc.type = old.type ∧ proc.rheads = old.rheads ∧ proc.destOpts = old.destOpts
  length : d.extHdrs.length ≤ d'.extHdrs.length
  frame : d'.srcAddress = d.srcAddress ∧ d'.destAddress = d.destAddress ∧
    d'.encapsulatedMsg = d.encapsulatedMsg

theorem acquires_push (cache : Option Nat → IPv6Datagram → IPv6Datagram)
    (keeps : ∀ proc d, (cache proc d).extHdrs = d.extHdrs ∧
      (cache proc d).srcAddress = d.srcAddress ∧ (cache proc d).destAddress = d.destAddress ∧
      (cache proc d).encapsulatedMsg = d.encapsulatedMsg) (proc : Option Nat) :
    Acquires d (cache proc (d.pushExtHdr t)) t d.extHdrs.length := by
  obtain ⟨headers, src, dest, msg⟩ := keeps proc (d.pushExtHdr t)
  refine ⟨?_, ?_, ?_, src, dest, msg⟩
  · refine ⟨HdrExtProc.create t, ?_, rfl, Or.inl ⟨rfl, rfl⟩⟩
    rw [headers, pushExtHdr, List.getElem?_append_right (by simp)]
    simp
  · intro i other apart located
    rw [headers, pushExtHdr] at located
    have bound : i < d.extHdrs.length := by
      have inside := (List.getElem?_eq_some_iff.mp located).1
      rw [List.length_append, List.length_modify, List.length_singleton] at inside
      omega
    rw [List.getElem?_append_left (by rwa [List.length_modify]), List.getElem?_modify] at located
    obtain ⟨old, here, rfl⟩ := Option.map_eq_some_iff.mp located
    refine ⟨old, here, ?_⟩
    split
    · exact ⟨rfl, rfl, rfl⟩
    · exact ⟨rfl, rfl, rfl⟩
  · rw [headers, pushExtHdr, List.length_append, List.length_modify]
    exact Nat.le_add_right _ _

theorem acquire_acquires {copied : Prop} (cached : IPv6Datagram → Option Nat)
    (cache : Option Nat → IPv6Datagram → IPv6Datagram) (chained : d.Chained copied)
    (whole : .fragment ∉ d.types) (type : t = .routing ∨ t = .dest)
    (keeps : ∀ proc d, (cache proc d).extHdrs = d.extHdrs ∧
      (cache proc d).srcAddress = d.srcAddress ∧ (cache proc d).destAddress = d.destAddress ∧
      (cache proc d).encapsulatedMsg = d.encapsulatedMsg) :
    ∃ j d', acquire cached cache t d = .ok (some j, d') ∧ Acquires d d' t j := by
  have notHop : t ≠ .hop := by
    rintro rfl
    rcases type with same | same <;> cases same
  have search : d.findHeader t = .ok (d.types.findIdx? (· = t)) := by
    refine chained.findHeader_first notHop fun _ i _ after => ?_
    obtain ⟨before, -, fragment⟩ := after
    exact whole (List.mem_of_getElem? fragment)
  have adds : d.addExtHdr t = .ok (some d.extHdrs.length, d.pushExtHdr t) := by
    rcases type with rfl | rfl
    · rfl
    · rfl
  have pushes : ∃ j d', (d.addExtHdr t >>= fun added => .ok (added.1, cache added.1 added.2)) =
      .ok (some j, d') ∧ Acquires d d' t j := by
    rw [adds]
    exact ⟨_, _, rfl, acquires_push cache keeps _⟩
  unfold acquire
  rw [search]
  split
  · rw [ok_bind]
    cases first : d.types.findIdx? (· = t) with
    | none => exact pushes
    | some j =>
        obtain ⟨bound, same, -⟩ := List.findIdx?_eq_some_iff_getElem.mp first
        have located : d.types[j]? = some t := by
          rw [List.getElem?_eq_getElem bound]
          exact congrArg some (of_decide_eq_true same)
        obtain ⟨proc, here, type⟩ := Option.map_eq_some_iff.mp (List.getElem?_map.symm.trans located)
        obtain ⟨headers, src, dest, msg⟩ := keeps (some j) d
        dsimp only
        rw [here, Option.map_some, type, assert_pos rfl, ok_bind]
        refine ⟨j, _, rfl, ⟨proc, ?_, type, Or.inr ⟨here, first⟩⟩, ?_, ?_, src, dest, msg⟩
        · rw [headers]
          exact here
        · intro i other _ found
          rw [headers] at found
          exact ⟨other, found, rfl, rfl, rfl⟩
        · rw [headers]
  · exact pushes

/-! ### Local delivery -/

theorem processHeaders_step (bc : BindingCache) (n : Nat) {proc : HdrExtProc} (located : d.extHdrs[j]? = some proc)
    (quiet : proc.Quiet) (keeps : l = false → proc.type ≠ .routing) :
    processHeaders bc (n + 1) j l d = processHeaders bc n (j + 1) l d := by
  rw [processHeaders, located, deref_some, ok_bind]
  split
  · rw [quiet.noOptions]
    change (processHeaders bc n (j + 1) l d >>= fun r => _) = _
    cases processHeaders bc n (j + 1) l d with
    | error fault => rfl
    | ok r => rfl
  · rename_i routing
    rw [if_neg (ne_true_of_eq_false quiet.isSegmentsLeft)]
    cases l with
    | false => exact absurd routing (keeps rfl)
    | true => rfl
  · rename_i fragment
    exact absurd fragment quiet.whole
  · rfl

theorem processHeaders_skip (bc : BindingCache) (k : Nat) (inside : i + n ≤ d.extHdrs.length)
    (quiet : ∀ (m : Nat) (proc : HdrExtProc), i ≤ m → m < i + n → d.extHdrs[m]? = some proc →
      proc.Quiet ∧ (l = false → proc.type ≠ .routing)) :
    processHeaders bc (n + k) i l d = processHeaders bc k (i + n) l d := by
  induction n generalizing i with
  | zero => rw [Nat.zero_add, Nat.add_zero]
  | succ n ih =>
      have bound : i < d.extHdrs.length := by omega
      have located := List.getElem?_eq_getElem bound
      obtain ⟨passed, keeps⟩ := quiet i _ (Nat.le_refl i) (by omega) located
      have step := processHeaders_step bc (n + k) located passed keeps
      rw [Nat.succ_add, step, ih (by omega)]
      · rw [Nat.succ_add_eq_add_succ]
      · exact fun m proc above below => quiet m proc (by omega) (by omega)

theorem processHeaders_quiet (bc : BindingCache)
    (quiet : ∀ (m : Nat) (proc : HdrExtProc), i ≤ m → d.extHdrs[m]? = some proc →
      proc.Quiet ∧ (l = false → proc.type ≠ .routing)) (inside : i ≤ d.extHdrs.length) :
    processHeaders bc (d.extHdrs.length - i) i l d = .ok (true, l, d, []) := by
  have skip := processHeaders_skip bc 0 (n := d.extHdrs.length - i) (by omega)
    fun m proc above _ => quiet m proc above
  rw [Nat.add_zero] at skip
  rw [skip]
  rfl

theorem processDatagram_quiet (bc : BindingCache)
    (quiet : ∀ (m : Nat) (proc : HdrExtProc), d.extHdrs[m]? = some proc → proc.Quiet) :
    d.processDatagram bc = .ok (true, d, []) := by
  have passes := processHeaders_quiet bc (l := true) (i := 0)
    (fun m proc _ located => ⟨quiet m proc located, fun impossible => by cases impossible⟩)
    (Nat.zero_le d.extHdrs.length)
  unfold processDatagram
  rw [Nat.sub_zero] at passes
  rw [passes]
  rfl

/-! ### The type 2 routing header -/

theorem processRheads_skip (cumul : Nat) (visited : ∀ m, i ≤ m → m < i + n →
    ∃ rh, d.rhead j m = some rh ∧ rh.segmentsLeft = 0) :
    ∃ cumul', processRheads j (n + k) i cumul d = processRheads j k (i + n) cumul' d := by
  induction n generalizing i cumul with
  | zero => exact ⟨cumul, by rw [Nat.zero_add, Nat.add_zero]⟩
  | succ n ih =>
      obtain ⟨rh, held, none⟩ := visited i (Nat.le_refl i) (by omega)
      obtain ⟨cumul', rest⟩ := ih (i := i + 1) (cumul + rh.lengthInUnits)
        fun m above below => visited m (by omega) (by omega)
      refine ⟨cumul', ?_⟩
      rw [Nat.succ_add, processRheads, held, deref_some, ok_bind]
      dsimp only
      rw [if_neg (not_not.mpr none), rest, Nat.succ_add_eq_add_succ]

/-- The header `j` ends with the routing header `rh`, and nothing else is left to be processed. -/
structure Carried (d : IPv6Datagram) (j : Nat) (front : List HdrExtRte) (rh : HdrExtRte) : Prop where
  located : ∃ proc, d.extHdrs[j]? = some proc ∧ proc.type = .routing ∧
    proc.rheads = front ++ [rh] ∧ proc.destOpts = []
  visited : ∀ r ∈ front, r.segmentsLeft = 0
  others : ∀ (i : Nat) (proc : HdrExtProc), i ≠ j → d.extHdrs[i]? = some proc →
    proc.Quiet ∧ (j < i → proc.type ≠ .routing)

variable {front : List HdrExtRte} {rh : HdrExtRte} {home : Ipv6Addr}

theorem Carried.quiet (carried : d.Carried j front rh) (none : rh.segmentsLeft = 0) (m : Nat)
    (proc : HdrExtProc) (located : d.extHdrs[m]? = some proc) : proc.Quiet := by
  by_cases here : m = j
  · subst here
    obtain ⟨own, found, type, rheads, noOptions⟩ := carried.located
    rw [found] at located
    cases located
    refine ⟨?_, noOptions, ?_⟩
    · rw [type]
      exact IPv6ExtHeader.noConfusion
    · intro r inside
      rw [rheads] at inside
      rcases List.mem_append.mp inside with before | last
      · exact carried.visited r before
      · rw [List.mem_singleton.mp last]
        exact none
  · exact (carried.others m proc here located).1

theorem Carried.dup (carried : d.Carried j front rh) : d.dup.Carried j (front.map (·.dup)) rh.dup where
  located := by
    obtain ⟨proc, found, type, rheads, noOptions⟩ := carried.located
    refine ⟨proc.dup, ?_, ?_, ?_, ?_⟩
    · rw [IPv6Datagram.dup, List.getElem?_map, found]
      rfl
    · rw [HdrExtProc.type_dup, type]
    · unfold HdrExtProc.dup
      rw [type]
      dsimp only
      rw [rheads, List.map_append]
      rfl
    · unfold HdrExtProc.dup
      rw [type]
      exact noOptions
  visited r inside := by
    obtain ⟨before, inside', rfl⟩ := List.mem_map.mp inside
    exact HdrExtProc.Quiet.segmentsLeft_dup (carried.visited before inside')
  others i proc apart located := by
    rw [IPv6Datagram.dup, List.getElem?_map] at located
    obtain ⟨before, found, rfl⟩ := Option.map_eq_some_iff.mp located
    obtain ⟨quiet, plain⟩ := carried.others i before apart found
    refine ⟨quiet.dup, fun later => ?_⟩
    rw [HdrExtProc.type_dup]
    exact plain later

theorem Carried.setRhead (carried : d.Carried j front rh) (rh' : HdrExtRte) :
    (d.setRhead j front.length rh').Carried j front rh' where
  located := by
    obtain ⟨proc, found, type, rheads, noOptions⟩ := carried.located
    refine ⟨{ proc with rheads := front ++ [rh'] }, ?_, type, rfl, noOptions⟩
    rw [IPv6Datagram.setRhead, List.getElem?_modify_eq, found]
    change some { proc with rheads := proc.rheads.set front.length rh' } = _
    rw [rheads, List.set_append_right _ _ (Nat.le_refl _), Nat.sub_self]
    rfl
  visited := carried.visited
  others i proc apart located := by
    rw [IPv6Datagram.setRhead, List.getElem?_modify_ne _ _ (Ne.symm apart)] at located
    exact carried.others i proc apart located

theorem Carried.of_extHdrs (carried : d.Carried j front rh) (same : d'.extHdrs = d.extHdrs) :
    d'.Carried j front rh :=
  ⟨same ▸ carried.located, carried.visited, same ▸ carried.others⟩

theorem Carried.rhead (carried : d.Carried j front rh) (m : Nat) : d.rhead j m = (front ++ [rh])[m]? := by
  obtain ⟨proc, found, -, rheads, -⟩ := carried.located
  rw [IPv6Datagram.rhead, found, Option.bind_some, rheads]

/-- The datagram after the type 2 header has been processed -/
def arrivedHome (d : IPv6Datagram) (j : Nat) (front : List HdrExtRte) (rh : HdrExtRte)
    (home : Ipv6Addr) : IPv6Datagram :=
  { d.setRhead j front.length (swapped rh d.destAddress) with destAddress := home }

theorem Carried.swaps (carried : d.Carried j front rh) (home : Ipv6Addr) :
    (d.arrivedHome j front rh home).Carried j front (swapped rh d.destAddress) :=
  (carried.setRhead (swapped rh d.destAddress)).of_extHdrs rfl

theorem Carried.processRheads (carried : d.Carried j front rh) (carries : rh.Carries [] [home])
    (unicast : d.destAddress.isMulticast = false) (unicastHome : home.isMulticast = false)
    (limit : 1 < d.hopLimit.toInt) (cumul : Nat) : IPv6Datagram.processRheads j (front.length + 1) 0 cumul d =
      .ok (true, d.arrivedHome j front rh home, [.routingOut (d.arrivedHome j front rh home).dup]) := by
  obtain ⟨cumul', skip⟩ := processRheads_skip (d := d) (i := 0) (n := front.length) (k := 1)
    (j := j) cumul fun m _ below => by
      rw [Nat.zero_add] at below
      refine ⟨front[m], ?_, carried.visited _ (List.getElem_mem below)⟩
      rw [carried.rhead, List.getElem?_append_left below, List.getElem?_eq_getElem below]
  have held : d.rhead j front.length = some rh := by
    rw [carried.rhead, List.getElem?_append_right (Nat.le_refl _), Nat.sub_self]
    rfl
  have sends := processRte_sends held carries unicast unicastHome limit
  rw [skip, Nat.zero_add, IPv6Datagram.processRheads, held, deref_some, ok_bind]
  dsimp only
  rw [if_pos carries.segmentsLeft_ne, assert_pos carries.one_segment, ok_bind, sends,
    ok_bind]
  rfl

theorem Carried.processDatagram (carried : d.Carried j front rh) (carries : rh.Carries [] [home])
    (unicast : d.destAddress.isMulticast = false) (unicastHome : home.isMulticast = false)
    (limit : 1 < d.hopLimit.toInt) : d.processDatagram bc = .ok (false, d.arrivedHome j front rh home,
      [.route (.routingOut (d.arrivedHome j front rh home).dup)]) := by
  obtain ⟨proc, located, type, rheads, -⟩ := carried.located
  have bound := (List.getElem?_eq_some_iff.mp located).1
  have left : proc.isSegmentsLeft = true := by
    unfold HdrExtProc.isSegmentsLeft
    rw [rheads, List.any_append, Bool.or_eq_true]
    right
    simpa using carries.segmentsLeft_ne
  have skip := processHeaders_skip bc (d.extHdrs.length - j) (d := d) (i := 0) (n := j) (l := true)
    (by omega) fun m proc _ below found =>
      ⟨(carried.others m proc (by omega) found).1, fun impossible => by cases impossible⟩
  have sends := carried.processRheads carries unicast unicastHome limit (d.cumulLengthInUnits j)
  have after := carried.swaps home
  have length : (d.arrivedHome j front rh home).extHdrs.length = d.extHdrs.length :=
    List.length_modify ..
  have rest := processHeaders_quiet bc (d := d.arrivedHome j front rh home) (l := false)
    (i := j + 1) (fun m proc above found => by
      obtain ⟨quiet, plain⟩ := after.others m proc (by omega) found
      exact ⟨quiet, fun _ => plain (by omega)⟩) (by omega)
  rw [length] at rest
  have count : proc.rheads.length = front.length + 1 := by
    rw [rheads, List.length_append, List.length_singleton]
  unfold IPv6Datagram.processDatagram
  have whole : d.extHdrs.length = j + (d.extHdrs.length - j) := by omega
  have tail : d.extHdrs.length - j = d.extHdrs.length - (j + 1) + 1 := by omega
  rw [whole, skip, Nat.zero_add, tail, processHeaders, located, deref_some, ok_bind, type]
  dsimp only
  rw [if_pos left, count, sends, ok_bind]
  dsimp only
  rw [if_pos rfl, rest]
  rfl

theorem Carried.deliver {own : Ipv6Addr → Bool} (carried : d.Carried j front rh)
    (carries : rh.Carries [] [home]) (unicast : d.destAddress.isMulticast = false)
    (unicastHome : home.isMulticast = false) (limit : 1 < d.hopLimit.toInt) (atHome : own home = true) :
    IPv6Datagram.deliver bc own (n + 2) d = .ok (some (d.arrivedHome j front rh home).dup) := by
  have after := (carried.swaps home).dup
  have none : (swapped rh d.destAddress).dup.segmentsLeft = 0 :=
    HdrExtProc.Quiet.segmentsLeft_dup
      (BitVec.eq_of_toNat_eq (carries.swap d.destAddress).1.segmentsLeft)
  unfold IPv6Datagram.deliver
  rw [carried.processDatagram carries unicast unicastHome limit, ok_bind]
  dsimp only
  have own' : own (d.arrivedHome j front rh home).dup.destAddress = true := atHome
  rw [if_neg Bool.false_ne_true, if_pos own', IPv6Datagram.deliver,
    processDatagram_quiet bc (after.quiet none)]
  rfl

/-! ### The home address option -/

/-- The header `j` has the home address option, and nothing else is left to be processed. -/
structure Optioned (d : IPv6Datagram) (j : Nat) (home : Ipv6Addr) : Prop where
  located : ∃ proc, d.extHdrs[j]? = some proc ∧ proc.type = .dest ∧ proc.destOpts = [home]
  others : ∀ (i : Nat) (proc : HdrExtProc), i ≠ j → d.extHdrs[i]? = some proc → proc.Quiet

theorem Optioned.dup (optioned : d.Optioned j home) : d.dup.Optioned j home where
  located := by
    obtain ⟨proc, found, type, option⟩ := optioned.located
    refine ⟨proc.dup, ?_, ?_, ?_⟩
    · rw [IPv6Datagram.dup, List.getElem?_map, found]
      rfl
    · rw [HdrExtProc.type_dup, type]
    · unfold HdrExtProc.dup
      rw [type]
      exact option
  others i proc apart located := by
    rw [IPv6Datagram.dup, List.getElem?_map] at located
    obtain ⟨before, found, rfl⟩ := Option.map_eq_some_iff.mp located
    exact (optioned.others i before apart found).dup

theorem Optioned.of_extHdrs (optioned : d.Optioned j home) (same : d'.extHdrs = d.extHdrs) : d'.Optioned j home :=
  ⟨same ▸ optioned.located, same ▸ optioned.others⟩

theorem Optioned.processDestOpts {bce : BcEntry} (optioned : d.Optioned j home)
    (message : d.encapsulatedMsg.hasMobility = false) (bound : bc.findBinding home = some bce)
    (careOf : bce.careOfAddr = d.srcAddress) : IPv6Datagram.processDestOpts bc j 1 0 d =
      .ok (true, { d.setDestOpt j 0 d.srcAddress with srcAddress := home }, []) := by
  obtain ⟨proc, located, -, option⟩ := optioned.located
  have held : d.destOpt j 0 = some home := by
    rw [destOpt, located, Option.bind_some, option]
    rfl
  have known : (bc.findBinding home).any (·.careOfAddr = d.srcAddress) = true := by
    rw [bound]
    exact decide_eq_true careOf
  have accepted : d.processReceivedHoADestOpt bc home = .ok (true, []) := by
    unfold processReceivedHoADestOpt
    split
    · rfl
    · exact if_pos known
  rw [IPv6Datagram.processDestOpts, processOption, held, deref_some, ok_bind, accepted,
    ok_bind]
  dsimp only
  rw [if_pos rfl]
  split
  · rename_i mobility
    rw [mobility] at message
    cases message
  · rfl

theorem Optioned.deliver {own : Ipv6Addr → Bool} {bce : BcEntry} (optioned : d.Optioned j home)
    (message : d.encapsulatedMsg.hasMobility = false) (bound : bc.findBinding home = some bce)
    (careOf : bce.careOfAddr = d.srcAddress) : IPv6Datagram.deliver bc own (n + 1) d =
      .ok (some { d.setDestOpt j 0 d.srcAddress with srcAddress := home }) := by
  obtain ⟨proc, located, type, option⟩ := optioned.located
  have inside := (List.getElem?_eq_some_iff.mp located).1
  have skip := processHeaders_skip bc (d.extHdrs.length - j) (d := d) (i := 0) (n := j) (l := true)
    (by omega) fun m other _ below found =>
      ⟨optioned.others m other (by omega) found, fun impossible => by cases impossible⟩
  have swaps := optioned.processDestOpts message bound careOf
  have length : (d.setDestOpt j 0 d.srcAddress).extHdrs.length = d.extHdrs.length :=
    List.length_modify ..
  have rest := processHeaders_quiet bc (l := true) (i := j + 1)
    (d := { d.setDestOpt j 0 d.srcAddress with srcAddress := home }) (fun m other above found => by
      change (d.extHdrs.modify j _)[m]? = some other at found
      rw [List.getElem?_modify_ne _ _ (by omega)] at found
      exact ⟨optioned.others m other (by omega) found, fun impossible => by cases impossible⟩)
    (by
      dsimp only
      omega)
  dsimp only at rest
  rw [length] at rest
  have whole : d.extHdrs.length = j + (d.extHdrs.length - j) := by omega
  have tail : d.extHdrs.length - j = d.extHdrs.length - (j + 1) + 1 := by omega
  unfold IPv6Datagram.deliver IPv6Datagram.processDatagram
  rw [whole, skip, Nat.zero_add, tail, processHeaders, located, deref_some, ok_bind, type]
  dsimp only
  rw [option, List.length_singleton, swaps, ok_bind]
  dsimp only
  rw [if_pos rfl, rest]
  rfl

end IPv6Datagram

end IPv6Suite
