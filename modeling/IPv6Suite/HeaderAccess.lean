import IPv6Suite.DatagramLength
import IPv6Suite.Lib.Ensures

namespace IPv6Suite

open Lib

/-- The extension headers that a datagram keeps a pointer to -/
inductive HdrInterface where
  | routing
  | fragment
  | dest
deriving DecidableEq

namespace HdrInterface

def hdrType : HdrInterface → IPv6ExtHeader
  | routing => .routing
  | fragment => .fragment
  | dest => .dest

def cached (d : IPv6Datagram) : HdrInterface → Option Nat
  | routing => d.routeHdr
  | fragment => d.fragHdr
  | dest => d.destHdr

def cache (proc : Option Nat) (d : IPv6Datagram) : HdrInterface → IPv6Datagram
  | routing => { d with routeHdr := proc }
  | fragment => { d with fragHdr := proc }
  | dest => { d with destHdr := proc }

theorem extHdrs_cache (proc : Option Nat) (d : IPv6Datagram) (k : HdrInterface) :
    (k.cache proc d).extHdrs = d.extHdrs := by
  cases k with
  | routing => rfl
  | fragment => rfl
  | dest => rfl

theorem cached_cache_self (proc : Option Nat) (d : IPv6Datagram) (k : HdrInterface) :
    k.cached (k.cache proc d) = proc := by
  cases k with
  | routing => rfl
  | fragment => rfl
  | dest => rfl

theorem cached_cache_ne (proc : Option Nat) (d : IPv6Datagram) {k k' : HdrInterface} (apart : k ≠ k') :
    k.cached (k'.cache proc d) = k.cached d := by
  cases k <;> cases k' <;> first | rfl | exact absurd rfl apart

end HdrInterface

namespace IPv6Datagram

/-- Headers are added and no pointer is given up. -/
structure Grows (d d' : IPv6Datagram) : Prop where
  headers : d.extHdrs.length ≤ d'.extHdrs.length
  pointers : ∀ k : HdrInterface, (k.cached d).isSome = true → (k.cached d').isSome = true

variable {d d' d'' : IPv6Datagram}

namespace Grows

theorem refl (d : IPv6Datagram) : d.Grows d := ⟨Nat.le_refl _, fun _ => id⟩

theorem trans (first : d.Grows d') (second : d'.Grows d'') : d.Grows d'' :=
  ⟨Nat.le_trans first.headers second.headers, fun k there => second.pointers k (first.pointers k there)⟩

theorem set (d : IPv6Datagram) (j : Nat) (proc : HdrExtProc) : d.Grows { d with extHdrs := d.extHdrs.set j proc } :=
  ⟨by simp, fun k there => by cases k <;> exact there⟩

theorem cache (d : IPv6Datagram) (j : Nat) (k : HdrInterface) : d.Grows (k.cache (some j) d) := by
  constructor
  · rw [HdrInterface.extHdrs_cache]
  · intro k' there
    by_cases same : k' = k
    · rw [same, HdrInterface.cached_cache_self]
      rfl
    · rw [HdrInterface.cached_cache_ne _ _ same]
      exact there

theorem pushExtHdr (d : IPv6Datagram) (t : IPv6ExtHeader) : d.Grows (d.pushExtHdr t) :=
  ⟨by simp [IPv6Datagram.pushExtHdr], fun k there => by cases k <;> exact there⟩

end Grows

theorem addExtHdr_interface (d : IPv6Datagram) (k : HdrInterface) :
    d.addExtHdr k.hdrType = .ok (some d.extHdrs.length, d.pushExtHdr k.hdrType) := by
  cases k with
  | routing => rfl
  | fragment => rfl
  | dest => rfl

theorem addExtHdr_grows (d : IPv6Datagram) (t : IPv6ExtHeader) :
    OnReturn (fun r => d.Grows r.2) (d.addExtHdr t) := by
  cases t with
  | hop => exact Grows.refl d
  | routing => exact Grows.pushExtHdr d _
  | fragment => exact Grows.pushExtHdr d _
  | dest => exact Grows.pushExtHdr d _
  | esp => exact True.intro
  | auth => exact True.intro
  | uninitialised => exact True.intro

/-- Acquiring a header leaves a pointer to it. -/
theorem acquire_grows (d : IPv6Datagram) (k : HdrInterface) :
    OnReturn (fun r => d.Grows r.2 ∧ (k.cached r.2).isSome = true ∧ ∀ p ∈ r.1, p < r.2.extHdrs.length)
      (acquire k.cached (fun proc d => k.cache proc d) k.hdrType d) := by
  unfold acquire
  apply Ensures.trivial.bind
  intro found _
  cases found with
  | some i =>
      apply (Ensures.returned (fun _ _ => True.intro)).bind
      intro _ typed
      rw [assert_eq_ok, Option.map_eq_some_iff] at typed
      obtain ⟨proc, located, -⟩ := typed
      refine ⟨Grows.cache d i k, by rw [HdrInterface.cached_cache_self]; rfl, ?_⟩
      intro p here
      cases here
      rw [HdrInterface.extHdrs_cache]
      exact (List.getElem?_eq_some_iff.mp located).1
  | none =>
      rw [addExtHdr_interface, ok_bind]
      refine ⟨(Grows.pushExtHdr d _).trans (Grows.cache _ _ k), by rw [HdrInterface.cached_cache_self]; rfl, ?_⟩
      intro p here
      cases here
      rw [HdrInterface.extHdrs_cache]
      simp [pushExtHdr]

theorem acquireRoutingInterface_grows (d : IPv6Datagram) :
    OnReturn (fun r => d.Grows r.2) d.acquireRoutingInterface :=
  (acquire_grows d .routing).imp fun _ grows => grows.1

theorem addRoutingHeader_grows (hoa : Ipv6Addr) (d : IPv6Datagram) :
    OnReturn (fun r => d.Grows r.2) (MIPv6MobilityState.addRoutingHeader hoa d) := by
  unfold MIPv6MobilityState.addRoutingHeader
  apply (acquireRoutingInterface_grows d).bind
  intro acquired grows
  apply Ensures.trivial.bind
  intro j _
  apply Ensures.trivial.bind
  intro rtProc _
  apply Ensures.trivial.bind
  intro _ _
  apply Ensures.trivial.bind
  intro rt2 _
  exact grows.trans (Grows.set _ j _)

theorem insertSourceRoute_grows (routes : SourceRoutes) (d : IPv6Datagram) :
    OnReturn (fun r => d.Grows r.2) (d.insertSourceRoute routes) := by
  unfold insertSourceRoute
  split
  · exact Grows.refl d
  · apply Ensures.trivial.bind
    intro present _
    apply Ensures.ite
    · intro _
      exact Grows.refl d
    · intro _
      apply (acquireRoutingInterface_grows d).bind
      intro acquired grows
      apply Ensures.trivial.bind
      intro j _
      apply Ensures.trivial.bind
      intro proc _
      apply Ensures.trivial.bind
      intro rh _
      apply Ensures.trivial.bind
      intro filled _
      apply Ensures.trivial.bind
      intro _ _
      apply Ensures.trivial.bind
      intro first _
      apply grows.trans
      exact ⟨by simp, fun k there => by cases k <;> exact there⟩

theorem addOption_grows (j : Nat) (homeAddr : Ipv6Addr) (d : IPv6Datagram) :
    OnReturn (fun r => d.Grows r.2) (d.addOption j homeAddr) := by
  unfold addOption
  apply Ensures.trivial.bind
  intro destProc _
  exact Grows.set d j _

/-- By cases on the call -/
theorem carry_grows (d : IPv6Datagram) (op : MeasuredDatagram.Op) : OnReturn (fun d' => d.Grows d') (d.carry op) := by
  have second {α : Type} {call : Exec (α × IPv6Datagram)} (grows : OnReturn (fun r => d.Grows r.2) call) :
      OnReturn (fun d' => d.Grows d') (do return (← call).2) := by
    apply grows.bind
    intro r grown
    exact grown
  cases op with
  | encapsulate length => exact Grows.refl d
  | addExtHdr hdrType => exact second (addExtHdr_grows d hdrType)
  | acquireRoutingInterface => exact second (acquireRoutingInterface_grows d)
  | acquireFragInterface => exact second ((acquire_grows d .fragment).imp fun _ grows => grows.1)
  | acquireDestInterface => exact second ((acquire_grows d .dest).imp fun _ grows => grows.1)
  | addOption j homeAddr => exact second (addOption_grows j homeAddr d)
  | addRoutingHeader hoa => exact second (addRoutingHeader_grows hoa d)
  | insertSourceRoute routes => exact second (insertSourceRoute_grows routes d)

theorem run_grows {ops : List MeasuredDatagram.Op} (runs : run carry d ops = .ok d') : d.Grows d' :=
  (Runs.of_run runs).invariant (fun reached => d.Grows reached)
    (fun _ op _ grows _ steps => grows.trans ((carry_grows _ op).of_ok steps)) (Grows.refl d)

end IPv6Datagram

namespace MeasuredDatagram

/-- The acquire function for a kind of header -/
def acquireInterface : HdrInterface → MeasuredDatagram → Exec (Option Nat × MeasuredDatagram)
  | .routing => acquireRoutingInterface
  | .fragment => acquireFragInterface
  | .dest => acquireDestInterface

theorem acquireInterface_eq (k : HdrInterface) (d : MeasuredDatagram) :
    d.acquireInterface k = acquire k.cached (fun proc d => k.cache proc d) k.hdrType d := by
  cases k with
  | routing => rfl
  | fragment => rfl
  | dest => rfl

def countHeaders (d : MeasuredDatagram) (t : IPv6ExtHeader) : Nat := (d.dgram.extHdrs.map (·.type)).count t

theorem addExtHdr_interface (d : MeasuredDatagram) (k : HdrInterface) :
    d.addExtHdr k.hdrType = .ok (some d.dgram.extHdrs.length,
      ⟨d.dgram.pushExtHdr k.hdrType, d.length + (HdrExtProc.create k.hdrType).lengthInUnits * 8, d.pdu⟩) := by
  unfold addExtHdr
  rw [IPv6Datagram.addExtHdr_interface, ok_bind]
  dsimp only
  rw [IPv6Datagram.pushExtHdr_last]
  show Except.ok (_, MeasuredDatagram.mk _ (d.length + _ * 1 * 8) _) = _
  rw [Nat.mul_one]

/-- After a header was acquired and whatever else was called, acquiring the same kind again always gives a new
header. -/
theorem acquire_twice_adds {k : HdrInterface} {ops : List Op} {d d' d'' : MeasuredDatagram} {pointer : Option Nat}
    (first : d.acquireInterface k = .ok (pointer, d')) (between : run step d' ops = .ok d'') :
    ∃ pointer' last, d''.acquireInterface k = .ok (pointer', last) ∧ pointer' ≠ pointer ∧
      last.countHeaders k.hdrType = d''.countHeaders k.hdrType + 1 ∧
      last.length = d''.length + (HdrExtProc.create k.hdrType).lengthInUnits * 8 := by
  rw [acquireInterface_eq] at first ⊢
  obtain ⟨-, kept, here⟩ := (IPv6Datagram.acquire_grows d.dgram k).of_ok (acquire_dgram first)
  have grows := IPv6Datagram.run_grows (run_dgram between)
  have still := grows.pointers k kept
  have again : acquire k.cached (fun proc d => k.cache proc d) k.hdrType d'' =
      .ok (some d''.dgram.extHdrs.length, ⟨k.cache (some d''.dgram.extHdrs.length) (d''.dgram.pushExtHdr k.hdrType),
        d''.length + (HdrExtProc.create k.hdrType).lengthInUnits * 8, d''.pdu⟩) := by
    unfold acquire
    rw [if_neg (by simpa [Option.isSome_iff_ne_none] using still), ok_bind]
    dsimp only
    rw [addExtHdr_interface]
    rfl
  refine ⟨_, _, again, ?_, ?_, rfl⟩
  · intro same
    have bound : d''.dgram.extHdrs.length < d'.dgram.extHdrs.length := here _ same.symm
    have more := grows.headers
    omega
  · unfold countHeaders
    rw [HdrInterface.extHdrs_cache]
    have added : (d''.dgram.pushExtHdr k.hdrType).extHdrs.map (·.type) =
        d''.dgram.extHdrs.map (·.type) ++ [k.hdrType] := IPv6Datagram.map_pushExtHdr (fun _ _ => rfl) _ _
    rw [added, List.count_append, List.count_singleton_self]

def plain : MeasuredDatagram := create ⟨0x20010db8, 0, 0, 1⟩ ⟨0x20010db8, 0, 0, 2⟩

def askedOnce : MeasuredDatagram :=
  { plain with
    dgram := { plain.dgram with nextHeader := 60, extHdrs := [.create .dest], destHdr := some 0 }
    length := 40 * 8 + 24 * 8 }

theorem acquire_twice_adds_dest :
    ∃ pointer' last, askedOnce.acquireInterface .dest = .ok (pointer', last) ∧ pointer' ≠ some 0 ∧
      last.countHeaders .dest = askedOnce.countHeaders .dest + 1 ∧
      last.length = askedOnce.length + (HdrExtProc.create .dest).lengthInUnits * 8 :=
  have first : plain.acquireInterface .dest = .ok (some 0, askedOnce) := by decide
  have between : run step askedOnce [] = .ok askedOnce := rfl
  acquire_twice_adds first between

/-- The second call returns the second of two headers, and the datagram is 24 octets longer. -/
theorem askedOnce_grows :
    plain.acquireInterface .dest = .ok (some 0, askedOnce) ∧
      (askedOnce.acquireInterface .dest).map (fun r => (r.1, r.2.countHeaders .dest, r.2.length)) =
        .ok (some 1, 2, askedOnce.length + 24 * 8) := by
  decide

end MeasuredDatagram

/-! ### Length up to a header -/

namespace IPv6Datagram

/-- The loop of `HdrExtProc::cumulLengthInUnits` for the header `j`, which it has not met before the header `i`. The
length of the header itself is `own`. -/
def cumulLoop (j own : Nat) : (i len : Nat) → List HdrExtProc → Exec Nat
  | _, _, [] => .error .fatalError
  | i, len, proc :: rest =>
      let len := len + proc.lengthInUnits
      if i = j then .ok (len + own) else cumulLoop j own (i + 1) len rest

def cumulLength (d : IPv6Datagram) (j : Nat) : Exec Nat := do
  let self ← Exec.deref .nullDeref d.extHdrs[j]?
  Exec.assert (d.extHdrs ≠ [])
  cumulLoop j self.lengthInUnits 0 0 d.extHdrs

/-- The lengths of the headers up to and including the header `j` -/
def lengthUpTo (d : IPv6Datagram) (j : Nat) : Nat := ((d.extHdrs.take (j + 1)).map (·.lengthInUnits)).sum

theorem cumulLoop_eq (own : Nat) (rest : List HdrExtProc) : ∀ (n i len : Nat), n < rest.length →
      cumulLoop (i + n) own i len rest = .ok (len + ((rest.take (n + 1)).map (·.lengthInUnits)).sum + own) := by
  induction rest with
  | nil =>
      intro n i len bound
      exact absurd bound (Nat.not_lt_zero n)
  | cons proc rest ih =>
      intro n i len bound
      rw [List.length_cons] at bound
      unfold cumulLoop
      rw [List.take_succ_cons, List.map_cons, List.sum_cons]
      cases n with
      | zero => simp
      | succ n =>
          have on := ih n (i + 1) (len + proc.lengthInUnits) (by omega)
          have shift : i + (n + 1) = i + 1 + n := by omega
          rw [if_neg (by omega), shift, on, Nat.add_assoc len]

variable {d : IPv6Datagram} {j : Nat}

theorem cumulLength_eq (present : j < d.extHdrs.length) : d.cumulLength j = .ok (d.cumulLengthInUnits j) := by
  have some : d.extHdrs ≠ [] := List.ne_nil_of_length_pos (by omega)
  have loop := cumulLoop_eq (d.extHdrs[j].lengthInUnits) d.extHdrs j 0 0 present
  rw [Nat.zero_add] at loop
  unfold cumulLength cumulLengthInUnits
  rw [List.getElem?_eq_getElem present, deref_some, ok_bind, assert_pos some, ok_bind, loop,
    Nat.zero_add]
  rfl

theorem cumulLength_double (present : j < d.extHdrs.length) :
    d.cumulLength j = .ok (d.lengthUpTo j + d.extHdrs[j].lengthInUnits) := by
  rw [cumulLength_eq present]
  unfold cumulLengthInUnits
  rw [List.getElem?_eq_getElem present]
  rfl

/-- The header itself is counted twice, so the sum is right for headers without a length only. -/
theorem cumulLength_sum_iff (present : j < d.extHdrs.length) :
    d.cumulLength j = .ok (d.lengthUpTo j) ↔ d.extHdrs[j].lengthInUnits = 0 := by
  rw [cumulLength_double present, Except.ok.injEq]
  omega

def twoFragments : IPv6Datagram :=
  { create ⟨0x20010db8, 0, 0, 1⟩ ⟨0x20010db8, 0, 0, 2⟩ with
    nextHeader := 44, extHdrs := [{ HdrExtProc.create .fragment with nextHeader := 44 }, .create .fragment] }

theorem cumulLength_sum_iff_twoFragments :
    twoFragments.cumulLength 1 = .ok (twoFragments.lengthUpTo 1) ↔
      (HdrExtProc.create .fragment).lengthInUnits = 0 :=
  cumulLength_sum_iff (d := twoFragments) (j := 1) (by decide)

theorem twoFragments_double : twoFragments.cumulLength 1 = .ok 24 ∧ twoFragments.lengthUpTo 1 = 16 := by
  decide

end IPv6Datagram

end IPv6Suite
