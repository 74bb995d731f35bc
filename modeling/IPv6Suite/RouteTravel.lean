import IPv6Suite.HeaderChain
import IPv6Suite.SourceRoute

namespace IPv6Suite

open Lib

namespace HdrExtRte

/-- The address vector holds the nodes visited and those that are left. -/
structure Carries (rh : HdrExtRte) (visited rest : List Ipv6Addr) : Prop where
  addr : rh.addr = visited ++ rest
  segmentsLeft : rh.segmentsLeft.toNat = rest.length
  hdrExtLen : rh.hdrExtLen.toNat = 2 * (visited.length + rest.length)
  single : rh.isMIPv6RteOpt = true → rest.length ≤ 1

namespace Carries

variable {rh rh' : HdrExtRte} {visited rest : List Ipv6Addr}

theorem nAddr (carries : rh.Carries visited rest) : rh.nAddr = visited.length + rest.length := by
  unfold HdrExtRte.nAddr
  rw [carries.hdrExtLen]
  omega

theorem create (rtType : BitVec 8) : (HdrExtRte.create rtType).Carries [] [] :=
  ⟨rfl, rfl, rfl, fun _ => Nat.zero_le 1⟩

theorem dup (carries : rh.Carries visited rest) : rh.dup.Carries visited rest := by
  obtain ⟨addr, segments, len, single⟩ := id carries
  unfold HdrExtRte.dup
  rw [carries.nAddr]
  split
  · refine ⟨?_, segments, len, single⟩
    dsimp only
    rw [addr, ← List.length_append, List.take_length]
  · rename_i empty
    have none : visited = [] ∧ rest = [] := by
      rw [← List.length_eq_zero_iff, ← List.length_eq_zero_iff]
      omega
    rw [none.1, none.2]
    exact ⟨rfl, rfl, rfl, fun _ => Nat.zero_le 1⟩

theorem segmentsLeft_ne {a : Ipv6Addr} (carries : rh.Carries visited (a :: rest)) : rh.segmentsLeft ≠ 0 := by
  intro none
  have count := carries.segmentsLeft
  rw [none, List.length_cons] at count
  simp at count

theorem one_segment {a : Ipv6Addr} (carries : rh.Carries visited (a :: rest)) :
    rh.isMIPv6RteOpt = true → rh.segmentsLeft = 1 := by
  intro mobile
  have one := carries.single mobile
  rw [List.length_cons] at one
  apply BitVec.eq_of_toNat_eq
  rw [carries.segmentsLeft, List.length_cons]
  change rest.length + 1 = 1
  omega

/-- The next address changes places with the destination. -/
theorem swap {a : Ipv6Addr} (carries : rh.Carries visited (a :: rest)) (dest : Ipv6Addr) :
    ({ rh with
      segmentsLeft := rh.segmentsLeft - 1
      addr := rh.addr.set (rh.nAddr - (rh.segmentsLeft - 1).toNat - 1) dest } :
        HdrExtRte).Carries (visited ++ [dest]) rest ∧
      rh.addr[rh.nAddr - (rh.segmentsLeft - 1).toNat - 1]? = some a := by
  have some : 1 ≤ rh.segmentsLeft := by
    rw [BitVec.le_def, carries.segmentsLeft]
    simp
  have left : (rh.segmentsLeft - 1).toNat = rest.length := by
    rw [BitVec.toNat_sub_of_le some, carries.segmentsLeft]
    simp
  have index : rh.nAddr - (rh.segmentsLeft - 1).toNat - 1 = visited.length := by
    rw [carries.nAddr, left, List.length_cons]
    omega
  rw [index, carries.addr]
  refine ⟨⟨?_, left, ?_, fun mobile => ?_⟩, ?_⟩
  · rw [List.set_append_right _ _ (Nat.le_refl _)]
    simp
  · dsimp only
    rw [carries.hdrExtLen, List.length_append, List.length_cons, List.length_singleton]
    omega
  · have one := carries.single mobile
    rw [List.length_cons] at one
    omega
  · rw [List.getElem?_append_right (Nat.le_refl _)]
    simp

theorem addAddress (carries : rh.Carries [] rest)
    (known : rh.routingType = type0RtHdr ∨ rh.routingType = type2RtHdr)
    (room : rh.isMIPv6RteOpt = true → rest = []) (a : Ipv6Addr) (fits : rest.length + 1 ≤ 127) :
    ∃ rh', rh.addAddress a = .ok rh' ∧ rh'.Carries [] (rest ++ [a]) ∧
      rh'.routingType = rh.routingType ∧ rh'.isMIPv6RteOpt = rh.isMIPv6RteOpt := by
  obtain ⟨addr, segments, len, -⟩ := carries
  rw [List.length_nil, Nat.zero_add] at len
  unfold HdrExtRte.addAddress setSegmentsLeft setHdrExtLen
  rw [assert_pos known, segments, ok_bind,
    assert_pos ⟨Nat.succ_pos _, by omega⟩]
  simp only [ok_bind, pure_eq_ok, len]
  rw [assert_pos ⟨Nat.succ_pos _, by omega⟩]
  refine ⟨_, rfl, ⟨?_, ?_, ?_, fun mobile => ?_⟩, rfl, rfl⟩
  · simp [addr]
  · rw [BitVec.toNat_ofNat, List.length_append, List.length_singleton]
    exact Nat.mod_eq_of_lt (by omega)
  · rw [BitVec.toNat_ofNat, List.length_append, List.length_singleton, List.length_nil]
    rw [Nat.mod_eq_of_lt (by omega)]
    omega
  · rw [room mobile]
    exact Nat.le_refl 1

theorem addAddresses (route : List Ipv6Addr) (carries : rh.Carries [] rest)
    (type0 : rh.routingType = type0RtHdr) (plain : rh.isMIPv6RteOpt = false) (fits : rest.length + route.length ≤ 127) :
    ∃ rh', IPv6Datagram.addAddresses rh route = .ok rh' ∧ rh'.Carries [] (rest ++ route) := by
  induction route generalizing rh rest with
  | nil =>
      refine ⟨rh, rfl, ?_⟩
      rw [List.append_nil]
      exact carries
  | cons a others ih =>
      rw [List.length_cons] at fits
      obtain ⟨next, added, carries', same, mobile⟩ := carries.addAddress (Or.inl type0)
        (fun mobile => absurd (plain.symm.trans mobile) Bool.false_ne_true) a (by omega)
      obtain ⟨rh', done, final⟩ := ih carries' (same.trans type0) (mobile.trans plain) (by
        rw [List.length_append, List.length_singleton]
        omega)
      refine ⟨rh', ?_, ?_⟩
      · unfold IPv6Datagram.addAddresses at done ⊢
        rw [List.foldlM_cons, added, ok_bind, done]
      · rw [List.append_assoc, List.singleton_append] at final
        exact final

end Carries

end HdrExtRte

namespace IPv6Datagram

variable {d d' : IPv6Datagram} {j : Nat} {rh rh' : HdrExtRte} {visited rest : List Ipv6Addr}

/-- The first routing extension header is the header `j`, with the one routing header. -/
structure Riding (d : IPv6Datagram) (j : Nat) (rh : HdrExtRte) : Prop where
  first : d.extHdrs.findIdx? (·.type = .routing) = some j
  located : ∃ proc, d.extHdrs[j]? = some proc ∧ proc.rheads = [rh]

theorem Riding.rhead (riding : d.Riding j rh) : d.rhead j 0 = some rh := by
  obtain ⟨proc, located, one⟩ := riding.located
  rw [IPv6Datagram.rhead, located, Option.bind_some, one]
  rfl

theorem Riding.dup (riding : d.Riding j rh) : d.dup.Riding j rh.dup := by
  obtain ⟨proc, located, one⟩ := riding.located
  obtain ⟨bound, kind, -⟩ := List.findIdx?_eq_some_iff_getElem.mp riding.first
  rw [List.getElem?_eq_getElem bound, Option.some.injEq] at located
  rw [located, decide_eq_true_eq] at kind
  refine ⟨?_, proc.dup, ?_, ?_⟩
  · simp only [IPv6Datagram.dup, List.findIdx?_map, Function.comp_def, HdrExtProc.type_dup]
    exact riding.first
  · simp [IPv6Datagram.dup, bound, located]
  · simp [HdrExtProc.dup, kind, one]

theorem Riding.setRhead (riding : d.Riding j rh) (rh' : HdrExtRte) : (d.setRhead j 0 rh').Riding j rh' := by
  obtain ⟨proc, located, one⟩ := riding.located
  constructor
  · rw [← riding.first]
    have types : (d.setRhead j 0 rh').extHdrs.map (·.type) = d.extHdrs.map (·.type) := by
      apply List.ext_getElem?
      intro i
      simp only [IPv6Datagram.setRhead, List.getElem?_map, List.getElem?_modify,
        Option.map_eq_map, Option.map_map]
      congr 1
      funext proc
      simp only [Function.comp_apply]
      split <;> rfl
    have search := congrArg (List.findIdx? (· = IPv6ExtHeader.routing)) types
    rwa [List.findIdx?_map, List.findIdx?_map] at search
  · refine ⟨{ proc with rheads := [rh'] }, ?_, rfl⟩
    simp [IPv6Datagram.setRhead, located, one]

/-- The header after a step: one segment less, and the destination in its slot. -/
def swapped (rh : HdrExtRte) (dest : Ipv6Addr) : HdrExtRte :=
  { rh with
    segmentsLeft := rh.segmentsLeft - 1
    addr := rh.addr.set (rh.nAddr - (rh.segmentsLeft - 1).toNat - 1) dest }

theorem processRte_sends {a : Ipv6Addr} {i : Nat} (held : d.rhead j i = some rh)
    (carries : rh.Carries visited (a :: rest)) (unicast : d.destAddress.isMulticast = false)
    (unicastNext : a.isMulticast = false) (limit : 1 < d.hopLimit.toInt) (cumul : Nat) :
    d.processRte j i cumul =
      .ok (true, { d.setRhead j i (swapped rh d.destAddress) with destAddress := a },
        [.routingOut
          { d.setRhead j i (swapped rh d.destAddress) with destAddress := a : IPv6Datagram }.dup]) := by
  have next := (carries.swap d.destAddress).2
  have left : rh.segmentsLeft ≠ 0 := carries.segmentsLeft_ne
  have even : ¬ rh.hdrExtLen.toNat % 2 ≠ 0 := by
    rw [carries.hdrExtLen]
    omega
  have within : ¬ rh.nAddr < rh.segmentsLeft.toNat := by
    rw [carries.nAddr, carries.segmentsLeft]
    omega
  unfold processRte
  rw [held, deref_some, ok_bind, assert_pos unicast, ok_bind, if_neg left,
    if_neg even, if_neg within]
  dsimp only
  rw [next, deref_some, ok_bind, if_neg (by simp [unicast, unicastNext])]
  exact if_neg (Int.not_le.mpr limit)

theorem processRouting_sends {a : Ipv6Addr} (riding : d.Riding j rh)
    (carries : rh.Carries visited (a :: rest)) (unicast : d.destAddress.isMulticast = false)
    (unicastNext : a.isMulticast = false) (limit : 1 < d.hopLimit.toInt) :
    ∃ d' next rh', d.processRouting = .ok (true, d', [.routingOut next]) ∧
      next.Riding j rh' ∧ rh'.Carries (visited ++ [d.destAddress]) rest ∧ next.destAddress = a := by
  obtain ⟨proc, located, one⟩ := riding.located
  have pending : proc.isSegmentsLeft = true := by
    rw [HdrExtProc.isSegmentsLeft, one]
    simpa using carries.segmentsLeft_ne
  have count : proc.rheads.length = 1 := by rw [one]; rfl
  have sends := processRte_sends riding.rhead carries unicast unicastNext limit
  have moved := riding.setRhead (swapped rh d.destAddress)
  let d' : IPv6Datagram := { d.setRhead j 0 (swapped rh d.destAddress) with destAddress := a }
  have riding' : d'.Riding j (swapped rh d.destAddress) := ⟨moved.first, moved.located⟩
  refine ⟨d', d'.dup, _, ?_, riding'.dup, (carries.swap d.destAddress).1.dup, rfl⟩
  unfold processRouting
  rw [riding.first]
  dsimp only
  rw [located, deref_some, ok_bind, if_pos pending, count]
  unfold processRheads
  rw [riding.rhead, deref_some, ok_bind]
  dsimp only
  rw [if_pos carries.segmentsLeft_ne, assert_pos carries.one_segment, ok_bind, sends,
    ok_bind]
  rfl

/-- At the final destination nothing is sent. -/
theorem processRouting_stops (riding : d.Riding j rh) (carries : rh.Carries visited []) :
    d.processRouting = .ok (true, d, []) := by
  obtain ⟨proc, located, one⟩ := riding.located
  have none : rh.segmentsLeft = 0 := BitVec.eq_of_toNat_eq carries.segmentsLeft
  have settled : proc.isSegmentsLeft = false := by
    rw [HdrExtProc.isSegmentsLeft, one]
    simp [none]
  unfold processRouting
  rw [riding.first]
  simp [located, settled]

/-- By induction on the addresses that are left: each becomes the destination in turn. -/
theorem travel_visits {limits : List (BitVec 16)} (riding : d.Riding j rh) (carries : rh.Carries visited rest)
    (unicast : ∀ a ∈ d.destAddress :: rest, a.isMulticast = false)
    (sufficient : ∀ l ∈ limits, 1 < l.toInt) (enough : rest.length ≤ limits.length) :
    ∃ last rh', travel limits d = .ok (d.destAddress :: rest, last) ∧ last.Riding j rh' ∧
      rh'.Carries (visited ++ (d.destAddress :: rest).dropLast) [] := by
  induction rest generalizing d rh visited limits with
  | nil =>
      have settled : rh.Carries (visited ++ [d.destAddress].dropLast) [] := by
        simpa using carries
      cases limits with
      | nil => exact ⟨d, rh, rfl, riding, settled⟩
      | cons limit others =>
          refine ⟨d, rh, ?_, riding, settled⟩
          unfold travel
          rw [processRouting_stops (d := { d with hopLimit := limit })
            ⟨riding.first, riding.located⟩ carries]
          rfl
  | cons a rest ih =>
      cases limits with
      | nil => cases enough
      | cons limit others =>
          obtain ⟨_, next, rh', sent, riding', carries', dest⟩ :=
            processRouting_sends (d := { d with hopLimit := limit })
              ⟨riding.first, riding.located⟩ carries (unicast _ (List.mem_cons_self ..))
              (unicast a (by simp)) (sufficient limit (List.mem_cons_self ..))
          obtain ⟨last, rh'', travelled, final, settled⟩ := ih riding' carries'
            (fun b inside => unicast b (List.mem_cons_of_mem _ (dest ▸ inside)))
            (fun l inside => sufficient l (List.mem_cons_of_mem _ inside))
            (Nat.le_of_succ_le_succ enough)
          refine ⟨last, rh'', ?_, final, ?_⟩
          · unfold travel
            rw [sent]
            simp only [ok_bind, travelled, dest]
            rfl
          · rw [dest] at settled
            simpa using settled

/-- The extension headers are those of a datagram that was built and copied. -/
def Built (d : IPv6Datagram) : Prop :=
  ∃ src dest ops copies built, run HeaderOp.step (create src dest) ops = .ok built ∧
    d.nextHeader = (List.foldl CopyOp.copy built copies).nextHeader ∧
    d.extHdrs = (List.foldl CopyOp.copy built copies).extHdrs

theorem Built.findHeader_routing (built : d.Built) (absent : .routing ∉ d.types) :
    d.findHeader .routing = .ok none := by
  obtain ⟨src, dest, ops, copies, original, built, first, headers⟩ := built
  have chained := (chained_copy (run_chained (chained_create src dest) built) copies).congr
    first headers
  have none : d.types.findIdx? (· = .routing) = none :=
    List.findIdx?_eq_none_iff.mpr fun t inside => decide_eq_false fun same => absent (same ▸ inside)
  have away : False ∨ copies ≠ [] → ∀ i, d.types.findIdx? (· = .routing) = some i →
      ¬ d.AfterFragment i := by
    intro _ i found
    rw [none] at found
    cases found
  rw [chained.findHeader_first (by decide) away, none]

theorem acquireRoutingInterface_adds (missing : d.findHeader .routing = .ok none) :
    d.acquireRoutingInterface = .ok (some d.extHdrs.length,
      { d.pushExtHdr .routing with routeHdr := some d.extHdrs.length }) := by
  unfold acquireRoutingInterface acquire
  have found : (if d.routeHdr.isNone then d.findHeader .routing else .ok none) = .ok none := by
    rw [missing, ite_self]
  rw [found]
  rfl

theorem insertSourceRoute_rides {routes : SourceRoutes} {hops : List Ipv6Addr} (built : d.Built)
    (absent : .routing ∉ d.types) (configured : routes[d.destAddress]? = some (hops ++ [d.destAddress]))
    (fits : hops.length ≤ 127) :
    ∃ d' rh, insertSourceRoute routes d = .ok (true, d') ∧ d'.Riding d.extHdrs.length rh ∧
      rh.Carries [] ((hops ++ [d.destAddress]).drop 1) ∧ (hops ++ [d.destAddress]).head? = some d'.destAddress := by
  have missing := built.findHeader_routing absent
  obtain ⟨rh, added, carries⟩ := (HdrExtRte.Carries.create type0RtHdr).addAddresses
    ((hops ++ [d.destAddress]).drop 1) rfl rfl (by
      rw [List.length_drop, List.length_append, List.length_singleton, List.length_nil]
      omega)
  rw [List.nil_append] at carries
  have located : (d.pushExtHdr .routing).extHdrs[d.extHdrs.length]? =
      some (HdrExtProc.create .routing) := by
    rw [pushExtHdr, List.getElem?_append_right (by simp)]
    simp
  have last : (hops ++ [d.destAddress]).getLast? = some (d.pushExtHdr .routing).destAddress := by
    simp [pushExtHdr]
  have search : ((d.pushExtHdr .routing).extHdrs.set d.extHdrs.length
      { HdrExtProc.create .routing with rheads := [rh] }).findIdx? (·.type = .routing) =
        some d.extHdrs.length := by
    have before : (d.extHdrs.modify (d.extHdrs.length - 1) ({ · with
        nextHeader := IPv6ExtHeader.routing.octet })).map (·.type) = d.types := by
      have types := types_pushExtHdr d .routing
      unfold IPv6Datagram.types pushExtHdr at types
      rw [List.map_append] at types
      exact (List.append_inj' types rfl).1
    have none : (d.extHdrs.modify (d.extHdrs.length - 1) ({ · with
        nextHeader := IPv6ExtHeader.routing.octet })).findIdx? (·.type = .routing) = none := by
      refine List.findIdx?_eq_none_iff.mpr fun proc inside => decide_eq_false fun same => absent ?_
      rw [← before]
      exact List.mem_map.mpr ⟨proc, inside, same⟩
    rw [pushExtHdr, List.set_append_right _ _ (by simp), List.findIdx?_append, none]
    simp [HdrExtProc.create]
  cases first : (hops ++ [d.destAddress]).head? with
  | none => simp at first
  | some h =>
      refine ⟨{ d.pushExtHdr .routing with
        extHdrs := (d.pushExtHdr .routing).extHdrs.set d.extHdrs.length
          { HdrExtProc.create .routing with rheads := [rh] }
        routeHdr := some d.extHdrs.length
        destAddress := h }, rh, ?_,
        ⟨search, { HdrExtProc.create .routing with rheads := [rh] }, ?_, rfl⟩, carries, rfl⟩
      · unfold insertSourceRoute
        simp only [configured, missing, ok_bind, Option.isSome_none, Bool.false_eq_true,
          ↓reduceIte, acquireRoutingInterface_adds missing, deref_some, located]
        have empty : (HdrExtProc.create .routing).routingHeader type0RtHdr = none := rfl
        have header : ((HdrExtProc.create .routing).addRoutingHeader
            (HdrExtRte.create type0RtHdr)).2.rheads = [HdrExtRte.create type0RtHdr] := rfl
        have position : [HdrExtRte.create type0RtHdr][(HdrExtProc.create
            .routing).rheads.length]? = some (HdrExtRte.create type0RtHdr) := rfl
        rw [empty]
        dsimp only
        rw [header, position, deref_some, ok_bind, added, ok_bind,
          assert_pos last, ok_bind, first]
        rfl
      · exact List.getElem?_set_self (List.getElem?_eq_some_iff.mp located).1

/-- The datagram visits the nodes of its preconfigured route in order and arrives with
the whole route behind it, for every route that fits the header's length field. -/
theorem source_route_visits (routes : SourceRoutes) {hops : List Ipv6Addr}
    {limits : List (BitVec 16)} (built : d.Built) (absent : .routing ∉ d.types)
    (configured : routes[d.destAddress]? = some (hops ++ [d.destAddress]))
    (fits : hops.length ≤ 127)
    (unicast : ∀ a ∈ hops ++ [d.destAddress], a.isMulticast = false)
    (sufficient : ∀ l ∈ limits, 1 < l.toInt) (enough : hops.length ≤ limits.length) :
    ∃ sent last j rh, insertSourceRoute routes d = .ok (true, sent) ∧
      travel limits sent = .ok (hops ++ [d.destAddress], last) ∧
      last.Riding j rh ∧ rh.segmentsLeft = 0 ∧ rh.addr = hops := by
  obtain ⟨sent, rh, inserted, riding, carries, first⟩ :=
    insertSourceRoute_rides built absent configured fits
  have route : sent.destAddress :: (hops ++ [d.destAddress]).drop 1 = hops ++ [d.destAddress] := by
    cases hops with
    | nil => rw [← Option.some.inj first]; rfl
    | cons h others => rw [← Option.some.inj first]; rfl
  obtain ⟨last, rh', travelled, final, settled⟩ := travel_visits riding carries
    (route ▸ unicast) sufficient (by
      rw [List.length_drop, List.length_append, List.length_singleton]
      omega)
  rw [route] at travelled settled
  refine ⟨sent, last, d.extHdrs.length, rh', inserted, travelled, final,
    BitVec.eq_of_toNat_eq settled.segmentsLeft, ?_⟩
  have addr := settled.addr
  rwa [List.append_nil, List.nil_append, List.dropLast_concat] at addr

def exampleNode (low : BitVec 32) : Ipv6Addr := ⟨0x20010db8, 0, 0, low⟩

def exampleRoutes (hops : List Ipv6Addr) : SourceRoutes :=
  (∅ : StdMap _ _ _).insert (exampleNode 9) (hops ++ [exampleNode 9])

theorem source_route_visits_two :
    ∃ sent last j rh,
      insertSourceRoute (exampleRoutes [exampleNode 1, exampleNode 2])
        (create (exampleNode 8) (exampleNode 9)) = .ok (true, sent) ∧
      travel [64, 63] sent = .ok ([exampleNode 1, exampleNode 2] ++ [exampleNode 9], last) ∧
      last.Riding j rh ∧ rh.segmentsLeft = 0 ∧ rh.addr = [exampleNode 1, exampleNode 2] := by
  have built : (create (exampleNode 8) (exampleNode 9)).Built :=
    ⟨exampleNode 8, exampleNode 9, [], [], _, rfl, rfl, rfl⟩
  have configured : (exampleRoutes [exampleNode 1, exampleNode 2])[exampleNode 9]? =
      some ([exampleNode 1, exampleNode 2] ++ [exampleNode 9]) := StdMap.getElem?_insert_self
  have sufficient : ∀ l ∈ [(64 : BitVec 16), 63], 1 < l.toInt := by
    intro l inside
    simp only [List.mem_cons, List.not_mem_nil, or_false] at inside
    rcases inside with rfl | rfl
    · decide +kernel
    · decide +kernel
  have unicast : ∀ a ∈ [exampleNode 1, exampleNode 2] ++ [exampleNode 9],
      a.isMulticast = false := by decide
  exact source_route_visits (exampleRoutes [exampleNode 1, exampleNode 2]) built List.not_mem_nil
    configured (by decide) unicast sufficient (by decide)

/-- A route over 128 nodes does not fit the length field of the header. -/
theorem long_source_route_fails :
    insertSourceRoute (exampleRoutes (List.replicate 128 (exampleNode 1)))
      (create (exampleNode 8) (exampleNode 9)) = .error .assertFailed := by
  decide +kernel

end IPv6Datagram

end IPv6Suite
