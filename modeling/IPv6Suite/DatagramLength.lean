import IPv6Suite.MeasuredDatagram
import IPv6Suite.RouteOptimisation

namespace IPv6Suite

open Lib

namespace IPv6Datagram

variable {d : IPv6Datagram}

def extOctets (d : IPv6Datagram) : Nat := (d.extHdrs.map (·.lengthInUnits)).sum

/-- The routing headers of each extension header -/
def allRheads (d : IPv6Datagram) : List (List HdrExtRte) := d.extHdrs.map (·.rheads)

theorem extOctets_pushExtHdr (d : IPv6Datagram) (t : IPv6ExtHeader) :
    (d.pushExtHdr t).extOctets = d.extOctets + (HdrExtProc.create t).lengthInUnits := by
  unfold extOctets
  rw [map_pushExtHdr fun _ _ => rfl, List.sum_append, List.sum_singleton]

theorem allRheads_pushExtHdr (d : IPv6Datagram) (t : IPv6ExtHeader) :
    (d.pushExtHdr t).allRheads = d.allRheads ++ [[]] := map_pushExtHdr (fun _ _ => rfl) d t

theorem pushExtHdr_last (d : IPv6Datagram) (t : IPv6ExtHeader) :
    (d.pushExtHdr t).extHdrs[d.extHdrs.length]? = some (HdrExtProc.create t) := by
  unfold pushExtHdr
  rw [List.getElem?_append_right (by rw [List.length_modify])]
  rw [List.length_modify, Nat.sub_self]
  rfl

theorem addOption_ok {d' : IPv6Datagram} {j : Nat} {homeAddr : Ipv6Addr} {added : Bool}
    (adds : d.addOption j homeAddr = .ok (added, d')) :
    ∃ destProc changed : HdrExtProc, d.extHdrs[j]? = some destProc ∧
      (changed.lengthInUnits = destProc.lengthInUnits ∧ changed.rheads = destProc.rheads) ∧
      d' = { d with extHdrs := d.extHdrs.set j changed } := by
  obtain ⟨destProc, found, changes⟩ := bind_eq_ok.mp adds
  have located := (Option.filter_eq_some_iff.mp ((deref_eq_ok _ _ _).mp found)).1
  refine ⟨destProc, (destProc.addOption homeAddr).2, located, ?_, (Prod.mk.inj (Except.ok.inj changes)).2.symm⟩
  unfold HdrExtProc.addOption
  split
  · exact ⟨rfl, rfl⟩
  · exact ⟨rfl, rfl⟩

end IPv6Datagram

namespace MeasuredDatagram

variable {d d' : MeasuredDatagram} {pointer : Option Nat} {t : IPv6ExtHeader}

/-- The length is that of the header, of the extension headers and of the message inside, and there are
only type 2 routing headers. -/
structure Right (d : MeasuredDatagram) : Prop where
  length : d.length = 8 * (40 + d.dgram.extOctets) + d.pdu.getD 0
  mobile : ∀ rheads ∈ d.dgram.allRheads, ∀ rh ∈ rheads, rh.routingType = type2RtHdr

/-- The pointers do not matter. -/
theorem Right.congr {dgram : IPv6Datagram} (right : d.Right) (same : dgram.extHdrs = d.dgram.extHdrs) :
    Right { d with dgram } := by
  obtain ⟨length, mobile⟩ := right
  unfold IPv6Datagram.extOctets at length
  unfold IPv6Datagram.allRheads at mobile
  rw [← same] at length mobile
  exact ⟨length, mobile⟩

theorem right_create (src dest : Ipv6Addr) : (create src dest).Right := ⟨rfl, nofun⟩

theorem Right.pushExtHdr (right : d.Right) (t : IPv6ExtHeader) :
    Right (addLength { d with dgram := d.dgram.pushExtHdr t }
      ((HdrExtProc.create t).lengthInUnits * extUnitOctets * 8)) := by
  constructor
  · have length := right.length
    change d.length + (HdrExtProc.create t).lengthInUnits * 1 * 8 =
      8 * (40 + (d.dgram.pushExtHdr t).extOctets) + d.pdu.getD 0
    rw [IPv6Datagram.extOctets_pushExtHdr]
    omega
  · change ∀ rheads ∈ (d.dgram.pushExtHdr t).allRheads, _
    rw [IPv6Datagram.allRheads_pushExtHdr]
    intro rheads member
    rcases List.mem_append.mp member with old | new
    · exact right.mobile rheads old
    · cases List.mem_singleton.mp new
      exact nofun

theorem Right.addExtHdr (right : d.Right) (adds : d.addExtHdr t = .ok (pointer, d')) :
    d'.Right ∧ ∀ j ∈ pointer, (d'.dgram.extHdrs[j]?).map (·.type) = some t := by
  obtain ⟨⟨pointer', dgram⟩, adds_hdr, measures⟩ := bind_eq_ok.mp adds
  have pushed (new : d.dgram.addExtHdr t = .ok (some d.dgram.extHdrs.length, d.dgram.pushExtHdr t)) :
      d'.Right ∧ ∀ j ∈ pointer, (d'.dgram.extHdrs[j]?).map (·.type) = some t := by
    cases adds_hdr.symm.trans new
    obtain ⟨proc, located, ends⟩ := bind_eq_ok.mp measures
    have last := IPv6Datagram.pushExtHdr_last d.dgram t
    cases ((deref_eq_ok _ _ _).mp located).symm.trans last
    cases ends
    refine ⟨right.pushExtHdr t, fun j here => ?_⟩
    cases here
    exact congrArg (Option.map (·.type)) last
  cases t with
  | hop =>
      cases adds_hdr
      cases measures
      exact ⟨right, nofun⟩
  | routing => exact pushed rfl
  | fragment => exact pushed rfl
  | dest => exact pushed rfl
  | esp => cases adds_hdr
  | auth => cases adds_hdr
  | uninitialised => cases adds_hdr

theorem Right.acquire {cached : IPv6Datagram → Option Nat} {cache : Option Nat → IPv6Datagram → IPv6Datagram}
    (right : d.Right) (only : ∀ p d, (cache p d).extHdrs = d.extHdrs)
    (acquires : acquire cached cache t d = .ok (pointer, d')) :
    d'.Right ∧ ∀ j ∈ pointer, (d'.dgram.extHdrs[j]?).map (·.type) = some t := by
  obtain ⟨found, -, acquires⟩ := bind_eq_ok.mp acquires
  cases found with
  | some i =>
      obtain ⟨_, typed, ends⟩ := bind_eq_ok.mp acquires
      cases ends
      refine ⟨right.congr (only _ _), fun j here => ?_⟩
      cases here
      dsimp only
      rw [only]
      exact (assert_eq_ok _ _).mp typed
  | none =>
      obtain ⟨⟨p, pushed⟩, adds, ends⟩ := bind_eq_ok.mp acquires
      cases ends
      obtain ⟨right', typed⟩ := right.addExtHdr adds
      refine ⟨right'.congr (only _ _), fun j here => ?_⟩
      dsimp only
      rw [only]
      exact typed j here

/-- The octets of the routing header that is put in are counted if the one before had none. -/
theorem Right.setRouting {j : Nat} {rtProc : HdrExtProc} {rt2 : HdrExtRte} (right : d.Right)
    (located : d.dgram.extHdrs[j]? = some rtProc) (routing : rtProc.type = .routing) (empty : rtProc.rheads = [])
    (type2 : rt2.routingType = type2RtHdr) :
    Right (addLength { d with
        dgram := { d.dgram with extHdrs := d.dgram.extHdrs.set j { rtProc with rheads := [rt2] } } }
      (HdrExtProc.lengthInUnits { rtProc with rheads := [rt2] } * 8)) := by
  have none_before : rtProc.lengthInUnits = 0 := by
    unfold HdrExtProc.lengthInUnits
    rw [routing, empty]
    rfl
  have sums := Lists.sum_map_set (f := (·.lengthInUnits)) located { rtProc with rheads := [rt2] }
  have length := right.length
  unfold IPv6Datagram.extOctets at length
  constructor
  · change d.length + HdrExtProc.lengthInUnits { rtProc with rheads := [rt2] } * 8 =
      8 * (40 + ((d.dgram.extHdrs.set j { rtProc with rheads := [rt2] }).map (·.lengthInUnits)).sum) + d.pdu.getD 0
    omega
  · intro rheads member
    obtain ⟨proc, inside, rfl⟩ := List.mem_map.mp member
    rcases List.mem_or_eq_of_mem_set inside with before | rfl
    · exact right.mobile _ (List.mem_map_of_mem before)
    · intro rh new
      cases List.mem_singleton.mp new
      exact type2

theorem Right.addRoutingHeader {hoa : Ipv6Addr} {added : Bool} (right : d.Right)
    (adds : d.addRoutingHeader hoa = .ok (added, d')) : d'.Right := by
  obtain ⟨⟨pointer, acquired⟩, acquires, adds⟩ := bind_eq_ok.mp adds
  obtain ⟨j, here, adds⟩ := bind_eq_ok.mp adds
  obtain ⟨rtProc, located, adds⟩ := bind_eq_ok.mp adds
  obtain ⟨_, fresh, adds⟩ := bind_eq_ok.mp adds
  obtain ⟨rt2, creates, ends⟩ := bind_eq_ok.mp adds
  rw [deref_eq_ok] at here located
  rw [assert_eq_ok] at fresh
  obtain ⟨right', typed⟩ := right.acquire (by intro _ _; rfl) acquires
  have routing := typed j here
  rw [located, Option.map_some, Option.some.injEq] at routing
  -- Every routing header is a type 2 header, and the one acquired has none of these.
  have empty : rtProc.rheads = [] := by
    rw [List.eq_nil_iff_forall_not_mem]
    intro rh inside
    have other := List.findIdx?_eq_none_iff.mp fresh rh inside
    rw [right'.mobile _ (List.mem_map_of_mem (List.mem_of_getElem? located)) rh inside] at other
    cases other
  have type2 : rt2.routingType = type2RtHdr := by
    obtain ⟨rh, created, _, type2⟩ := IPv6Datagram.createMIPv6_carries hoa
    cases creates.symm.trans created
    exact type2
  have puts : (rtProc.addRoutingHeader rt2).2 = { rtProc with rheads := [rt2] } := by
    unfold HdrExtProc.addRoutingHeader
    rw [empty]
    rfl
  dsimp only at ends
  rw [puts] at ends
  rw [← (Prod.mk.inj (Except.ok.inj ends)).2]
  exact right'.setRouting located routing empty type2

theorem Right.addOption {j : Nat} {homeAddr : Ipv6Addr} {added : Bool} (right : d.Right)
    (adds : d.addOption j homeAddr = .ok (added, d')) : d'.Right := by
  obtain ⟨⟨added', dgram⟩, adds, ends⟩ := bind_eq_ok.mp adds
  obtain ⟨destProc, changed, located, same, rfl⟩ := IPv6Datagram.addOption_ok adds
  cases ends
  have sums := Lists.sum_map_set (f := (·.lengthInUnits)) located changed
  have length := right.length
  unfold IPv6Datagram.extOctets at length
  constructor
  · change d.length =
      8 * (40 + ((d.dgram.extHdrs.set j changed).map (·.lengthInUnits)).sum) + d.pdu.getD 0
    omega
  · intro rheads member
    obtain ⟨proc, inside, rfl⟩ := List.mem_map.mp member
    rcases List.mem_or_eq_of_mem_set inside with before | rfl
    · exact right.mobile _ (List.mem_map_of_mem before)
    · rw [same.2]
      exact right.mobile _ (List.mem_map_of_mem (List.mem_of_getElem? located))

theorem Right.encapsulate {length : Nat} (right : d.Right) (encapsulates : d.encapsulate length = .ok d') :
    d'.Right := by
  obtain ⟨total, mobile⟩ := right
  unfold MeasuredDatagram.encapsulate at encapsulates
  cases inside : d.pdu with
  | none =>
      rw [inside] at encapsulates total
      cases encapsulates
      refine ⟨?_, mobile⟩
      dsimp only [Option.getD_none, Option.getD_some] at total ⊢
      omega
  | some pdu =>
      rw [inside] at encapsulates
      cases encapsulates

/-- There is no route to the destination, or a routing header is there already. -/
def Unrouted (d : MeasuredDatagram) : Op → Prop
  | .insertSourceRoute routes => routes[d.dgram.destAddress]? = none ∨
      (d.dgram.findHeader .routing).toOption.any (·.isSome) = true
  | _ => True

instance (d : MeasuredDatagram) : (op : Op) → Decidable (d.Unrouted op)
  | .insertSourceRoute _ => inferInstanceAs (Decidable (_ ∨ _))
  | .encapsulate _ | .addExtHdr _ | .acquireRoutingInterface | .acquireFragInterface | .acquireDestInterface
  | .addOption _ _ | .addRoutingHeader _ => isTrue trivial

theorem insertSourceRoute_unrouted {routes : IPv6Datagram.SourceRoutes} {inserted : Bool}
    (unrouted : d.Unrouted (.insertSourceRoute routes))
    (inserts : d.insertSourceRoute routes = .ok (inserted, d')) : d' = d := by
  unfold insertSourceRoute at inserts
  rcases unrouted with missing | present
  · rw [missing] at inserts
    cases inserts
    rfl
  · cases route : routes[d.dgram.destAddress]? with
    | none =>
        rw [route] at inserts
        cases inserts
        rfl
    | some hops =>
        rw [route] at inserts
        cases found : d.dgram.findHeader .routing with
        | error fault =>
            rw [found] at present
            cases present
        | ok header =>
            rw [found] at present inserts
            cases header with
            | none => cases present
            | some j =>
                cases inserts
                rfl

theorem Right.step {op : Op} (right : d.Right) (unrouted : d.Unrouted op) (steps : d.step op = .ok d') :
    d'.Right := by
  cases op with
  | encapsulate length => exact right.encapsulate steps
  | addExtHdr hdrType =>
      obtain ⟨⟨_, added⟩, adds, ends⟩ := bind_eq_ok.mp steps
      cases ends
      exact (right.addExtHdr adds).1
  | acquireRoutingInterface =>
      obtain ⟨⟨_, acquired⟩, acquires, ends⟩ := bind_eq_ok.mp steps
      cases ends
      exact (right.acquire (by intro _ _; rfl) acquires).1
  | acquireFragInterface =>
      obtain ⟨⟨_, acquired⟩, acquires, ends⟩ := bind_eq_ok.mp steps
      cases ends
      exact (right.acquire (by intro _ _; rfl) acquires).1
  | acquireDestInterface =>
      obtain ⟨⟨_, acquired⟩, acquires, ends⟩ := bind_eq_ok.mp steps
      cases ends
      exact (right.acquire (by intro _ _; rfl) acquires).1
  | addOption j homeAddr =>
      obtain ⟨⟨_, added⟩, adds, ends⟩ := bind_eq_ok.mp steps
      cases ends
      exact right.addOption adds
  | addRoutingHeader hoa =>
      obtain ⟨⟨_, added⟩, adds, ends⟩ := bind_eq_ok.mp steps
      cases ends
      exact right.addRoutingHeader adds
  | insertSourceRoute routes =>
      obtain ⟨⟨_, routed⟩, inserts, ends⟩ := bind_eq_ok.mp steps
      cases ends
      cases insertSourceRoute_unrouted unrouted inserts
      exact right

end MeasuredDatagram

/-- As long as no source route is inserted, a datagram has the length of its header, of its extension
headers, which is in octets, and of the message it encapsulates. -/
theorem datagram_length {src dest : Ipv6Addr} {ops : List MeasuredDatagram.Op} {d : MeasuredDatagram}
    (runs : Runs MeasuredDatagram.step MeasuredDatagram.Unrouted (.create src dest) ops d) :
    d.length = 8 * (40 + (d.dgram.extHdrs.map (·.lengthInUnits)).sum) + d.pdu.getD 0 :=
  (runs.invariant MeasuredDatagram.Right (fun _ _ _ => MeasuredDatagram.Right.step)
    (MeasuredDatagram.right_create src dest)).length

/-- A mobility message with a home address option and a type 2 routing header, and no route to its destination -/
theorem datagram_length_mobile :
    ∃ d, run MeasuredDatagram.step (.create .unspecified .loopback)
        [.encapsulate 256, .acquireDestInterface, .addOption 0 .loopback, .acquireFragInterface,
          .addRoutingHeader .loopback, .insertSourceRoute ∅] = .ok d ∧
      d.length = 8 * (40 + (24 + 8 + 24)) + 256 := by
  have checked : (run (fun d op => Exec.assert (d.Unrouted op) >>= fun _ => d.step op)
      (MeasuredDatagram.create .unspecified .loopback)
      [.encapsulate 256, .acquireDestInterface, .addOption 0 .loopback, .acquireFragInterface,
        .addRoutingHeader .loopback, .insertSourceRoute ∅]).map
      (fun d => (d.dgram.extHdrs.map (·.lengthInUnits), d.pdu)) = .ok ([24, 8, 24], some 256) := by
    decide +kernel
  obtain ⟨d, runs, same⟩ := map_eq_ok checked
  obtain ⟨lengths, pdu⟩ := Prod.mk.inj same
  have total := datagram_length (Runs.of_checked runs)
  rw [lengths, pdu] at total
  exact ⟨d, (Runs.of_checked runs).run_eq, total⟩

/-- The length of a destination options header is in octets, and a source route is not counted. -/
theorem datagram_length_in_octets :
    (∃ d, run MeasuredDatagram.step (.create .unspecified .loopback) [.acquireDestInterface] = .ok d ∧
      d.length = 8 * (40 + 24) ∧ d.pdu = none ∧
      d.length ≠ 8 * (40 + 8 * (d.dgram.extHdrs.map (·.lengthInUnits)).sum) + d.pdu.getD 0) ∧
    ∃ d, run MeasuredDatagram.step (.create .unspecified (IPv6Datagram.exampleNode 9))
        [.insertSourceRoute (IPv6Datagram.exampleRoutes [IPv6Datagram.exampleNode 1])] = .ok d ∧
      (d.dgram.extHdrs.map (·.lengthInUnits)).sum = 24 ∧ d.length = 8 * 40 ∧ d.pdu = none :=
  ⟨⟨_, rfl, rfl, rfl, by decide⟩, ⟨_, rfl, rfl, rfl, rfl⟩⟩

end IPv6Suite
