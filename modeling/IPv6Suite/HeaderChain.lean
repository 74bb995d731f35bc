import IPv6Suite.IPv6Datagram

namespace IPv6Suite

open Lib

namespace IPv6Datagram

/-- The next header values in order: the datagram's leads to the first header, and each
header's to the one after it. -/
def links (d : IPv6Datagram) : List (BitVec 8) := d.nextHeader :: d.extHdrs.map (·.nextHeader)

def types (d : IPv6Datagram) : List IPv6ExtHeader := d.extHdrs.map (·.type)

/-- Whether the link is equal to the type searched for. -/
def leadsTo (t : IPv6ExtHeader) (link : BitVec 8) : Bool := (link.toNat : Int) = t.value

theorem leadsTo_iff {t : IPv6ExtHeader} {link : BitVec 8} :
    leadsTo t link = true ↔ (link.toNat : Int) = t.value := decide_eq_true_iff

theorem findHeader_eq (d : IPv6Datagram) (t : IPv6ExtHeader) :
    d.findHeader t =
      if d.extHdrs = [] then .ok none
      else match d.links.findIdx? (leadsTo t) with
        | none => .ok none
        | some i => if i < d.extHdrs.length then .ok (some i) else .error .outOfBounds := by
  have general : ∀ (l : List HdrExtProc) (start : Nat),
      findLinked t start l = match (l.map (·.nextHeader)).findIdx? (leadsTo t) with
        | none => .ok none
        | some i => if i + 1 < l.length then .ok (some (start + i + 1)) else .error .outOfBounds := by
    intro l
    induction l with
    | nil => exact fun _ => rfl
    | cons proc rest ih =>
        intro start
        rw [findLinked, List.map_cons, List.findIdx?_cons]
        by_cases leads : (proc.nextHeader.toNat : Int) = t.value
        · rw [if_pos leads, if_pos (leadsTo_iff.mpr leads)]
          cases rest <;> simp
        · rw [if_neg leads, if_neg (mt leadsTo_iff.mp leads), ih]
          cases (rest.map (·.nextHeader)).findIdx? (leadsTo t) with
          | none => rfl
          | some i =>
              simp only [Option.map_some, List.length_cons, Nat.add_lt_add_iff_right]
              split
              · rw [show start + 1 + i + 1 = start + (i + 1) + 1 by omega]
              · rfl
  unfold findHeader
  by_cases empty : d.extHdrs = []
  · simp [empty, findLinked]
  · rw [if_neg empty, links, List.findIdx?_cons]
    have nonempty : ¬ d.extHdrs.isEmpty := by simpa using empty
    by_cases leads : (d.nextHeader.toNat : Int) = t.value
    · rw [if_pos ⟨leads, nonempty⟩, if_pos (leadsTo_iff.mpr leads)]
      simp [List.length_pos_iff.mpr empty]
    · rw [if_neg fun both => leads both.1, if_neg (mt leadsTo_iff.mp leads), general]
      cases (d.extHdrs.map (·.nextHeader)).findIdx? (leadsTo t) <;> simp

/-- The types of header that can be added. -/
def Supported (t : IPv6ExtHeader) : Prop := t = .routing ∨ t = .fragment ∨ t = .dest

theorem leadsTo_octet {s t : IPv6ExtHeader} (supported : Supported s) : leadsTo t s.octet = true ↔ s = t := by
  rcases supported with rfl | rfl | rfl <;> cases t <;> decide

theorem leadsTo_zero {t : IPv6ExtHeader} : leadsTo t 0 = true ↔ t = .hop := by
  cases t <;> decide

/-- The header `i` stands right after a fragment header. -/
def AfterFragment (d : IPv6Datagram) (i : Nat) : Prop :=
  ∃ j, i = j + 1 ∧ d.types[j]? = some .fragment

/-- Every link is the type of the header it leads to, unless it was in a fragment header
that was copied; the last link is 0. -/
structure Chained (d : IPv6Datagram) (copied : Prop) : Prop where
  supported : ∀ t ∈ d.types, Supported t
  link : ∀ i t, d.types[i]? = some t → ¬ (copied ∧ d.AfterFragment i) → d.links[i]? = some t.octet
  cut : copied → ∀ i, d.AfterFragment i → d.links[i]? = some 0
  last : d.extHdrs ≠ [] → d.links[d.extHdrs.length]? = some 0

variable {d d' : IPv6Datagram} {t : IPv6ExtHeader}

theorem types_pushExtHdr (d : IPv6Datagram) (t : IPv6ExtHeader) :
    (d.pushExtHdr t).types = d.types ++ [t] := map_pushExtHdr (fun _ _ => rfl) d t

theorem links_pushExtHdr (d : IPv6Datagram) (t : IPv6ExtHeader) :
    (d.pushExtHdr t).links = d.links.set d.extHdrs.length t.octet ++ [0] := by
  unfold links pushExtHdr
  cases split : d.extHdrs with
  | nil => simp [HdrExtProc.create]
  | cons proc rest =>
      simp only [List.isEmpty_cons, Bool.false_eq_true, ↓reduceIte, List.length_cons,
        List.set_cons_succ, List.map_append, List.cons_append, Nat.add_sub_cancel]
      congr 2
      apply List.ext_getElem?
      intro i
      rw [List.getElem?_map, List.getElem?_modify, List.getElem?_set, List.getElem?_map]
      by_cases last : rest.length = i
      · simp [last]
      · simp [last]

theorem chained_pushExtHdr (chained : d.Chained False) (supported : Supported t) :
    (d.pushExtHdr t).Chained False := by
  have length : (d.pushExtHdr t).extHdrs.length = d.extHdrs.length + 1 := by
    simp [pushExtHdr]
  have size : d.links.length = d.extHdrs.length + 1 := by simp [links]
  refine ⟨fun s inside => ?_, fun i s located _ => ?_, False.elim, fun _ => ?_⟩
  · rw [types_pushExtHdr] at inside
    rcases List.mem_append.mp inside with old | new
    · exact chained.supported s old
    · exact List.mem_singleton.mp new ▸ supported
  · rw [types_pushExtHdr, List.getElem?_append] at located
    have count : d.types.length = d.extHdrs.length := List.length_map _
    rw [links_pushExtHdr, List.getElem?_append_left (by
      rw [List.length_set, size]
      split at located
      · omega
      · have bound := (List.getElem?_eq_some_iff.mp located).1
        rw [List.length_singleton] at bound
        omega)]
    split at located
    · rename_i before
      rw [List.getElem?_set_ne (by omega)]
      exact chained.link i s located fun both => both.1
    · rename_i after
      have bound := (List.getElem?_eq_some_iff.mp located).1
      rw [List.length_singleton] at bound
      have here : i = d.extHdrs.length := by omega
      rw [here, count, Nat.sub_self, List.getElem?_cons_zero, Option.some.injEq] at located
      rw [here, List.getElem?_set_self (by omega), located]
  · rw [links_pushExtHdr, length, List.getElem?_append_right (by simp [size])]
    simp [size]

theorem types_dup (d : IPv6Datagram) : d.dup.types = d.types := by
  simp [types, dup]

theorem chained_dup {copied : Prop} (chained : d.Chained copied) : d.dup.Chained True := by
  have next : ∀ i, d.dup.links[i + 1]? =
      (d.extHdrs[i]?).map fun proc => if proc.type = .fragment then 0 else proc.nextHeader := by
    intro i
    simp only [links, dup, List.getElem?_cons_succ, List.getElem?_map, Option.map_map]
    congr 1
    funext proc
    simp only [Function.comp_apply, HdrExtProc.dup]
    cases proc.type <;> rfl
  have same : ∀ i, ¬ d.AfterFragment i → d.dup.links[i]? = d.links[i]? := by
    intro i apart
    cases i with
    | zero => rfl
    | succ i =>
        rw [next]
        simp only [links, List.getElem?_cons_succ, List.getElem?_map]
        cases located : d.extHdrs[i]? with
        | none => rfl
        | some proc =>
            have kind : proc.type ≠ .fragment := fun equal =>
              apart ⟨i, rfl, by simp [types, located, equal]⟩
            simp [kind]
  have cut : ∀ i, d.AfterFragment i → d.dup.links[i]? = some 0 := by
    rintro i ⟨j, rfl, kind⟩
    rw [types, List.getElem?_map, Option.map_eq_some_iff] at kind
    obtain ⟨proc, located, kind⟩ := kind
    rw [next, located]
    simp [kind]
  have after : ∀ i, d.dup.AfterFragment i ↔ d.AfterFragment i := by
    intro i
    unfold AfterFragment
    rw [types_dup]
  refine ⟨?_, fun i s located apart => ?_, fun _ i here => cut i ((after i).mp here),
    fun nonempty => ?_⟩
  · rw [types_dup]
    exact chained.supported
  · rw [types_dup] at located
    have away : ¬ d.AfterFragment i := fun here => apart ⟨trivial, (after i).mpr here⟩
    rw [same i away]
    exact chained.link i s located fun both => away both.2
  · have length : d.dup.extHdrs.length = d.extHdrs.length := List.length_map _
    have nonempty' : d.extHdrs ≠ [] := fun empty => nonempty (by simp [dup, empty])
    rw [length]
    by_cases here : d.AfterFragment d.extHdrs.length
    · exact cut _ here
    · rw [same _ here]
      exact chained.last nonempty'

namespace Chained

variable {copied : Prop}

theorem not_hop (chained : d.Chained copied) : .hop ∉ d.types := fun inside => by
  rcases chained.supported .hop inside with same | same | same <;> cases same

theorem findIdx?_hop (chained : d.Chained copied) : d.types.findIdx? (· = .hop) = none := by
  refine List.findIdx?_eq_none_iff.mpr fun s inside => decide_eq_false ?_
  rintro rfl
  exact chained.not_hop inside

theorem sound (chained : d.Chained copied) (nonempty : d.extHdrs ≠ []) (notHop : t ≠ .hop)
    {i : Nat} {link : BitVec 8} (linked : d.links[i]? = some link)
    (leads : leadsTo t link = true) : d.types[i]? = some t := by
  have size : d.links.length = d.extHdrs.length + 1 := by simp [links]
  have count : d.types.length = d.extHdrs.length := List.length_map _
  have bound := (List.getElem?_eq_some_iff.mp linked).1
  rcases Nat.lt_or_ge i d.types.length with inside | past
  · have located := List.getElem?_eq_getElem inside
    by_cases broken : copied ∧ d.AfterFragment i
    · rw [chained.cut broken.1 i broken.2, Option.some.injEq] at linked
      rw [← linked] at leads
      exact absurd (leadsTo_zero.mp leads) notHop
    · rw [chained.link i _ located broken, Option.some.injEq] at linked
      rw [← linked] at leads
      rw [located]
      exact congrArg some ((leadsTo_octet (chained.supported _
        (List.mem_of_getElem? located))).mp leads)
  · have here : i = d.extHdrs.length := by omega
    subst here
    rw [chained.last nonempty, Option.some.injEq] at linked
    rw [← linked] at leads
    exact absurd (leadsTo_zero.mp leads) notHop

theorem findHeader_hop (chained : d.Chained copied) (nonempty : d.extHdrs ≠ []) : d.findHeader .hop ≠ .ok none := by
  rw [findHeader_eq, if_neg nonempty]
  cases search : d.links.findIdx? (leadsTo .hop) with
  | none =>
      have last := List.mem_of_getElem? (chained.last nonempty)
      have misses := List.findIdx?_eq_none_iff.mp search 0 last
      rw [leadsTo_zero.mpr rfl] at misses
      cases misses
  | some i =>
      dsimp only
      split
      · exact fun found => by cases found
      · exact fun found => by cases found

theorem findHeader_cut (chained : d.Chained copied) (isCopied : copied) (notHop : t ≠ .hop)
    {i : Nat} (here : d.AfterFragment i) : d.findHeader t ≠ .ok (some i) := by
  rw [findHeader_eq]
  split
  · exact fun found => by cases found
  · cases search : d.links.findIdx? (leadsTo t) with
    | none => exact fun found => by cases found
    | some j =>
        dsimp only
        split
        · rintro found
          cases found
          obtain ⟨bound, leads, -⟩ := List.findIdx?_eq_some_iff_getElem.mp search
          have zero := chained.cut isCopied i here
          rw [List.getElem?_eq_getElem bound, Option.some.injEq] at zero
          rw [zero] at leads
          exact notHop (leadsTo_zero.mp leads)
        · exact fun found => by cases found

theorem findHeader_first (chained : d.Chained copied) (notHop : t ≠ .hop)
    (away : copied → ∀ i, d.types.findIdx? (· = t) = some i → ¬ d.AfterFragment i) :
    d.findHeader t = .ok (d.types.findIdx? (· = t)) := by
  have size : d.links.length = d.extHdrs.length + 1 := by simp [links]
  have count : d.types.length = d.extHdrs.length := List.length_map _
  rw [findHeader_eq]
  by_cases empty : d.extHdrs = []
  · simp [empty, types]
  · rw [if_neg empty]
    cases first : d.types.findIdx? (· = t) with
    | none =>
        cases search : d.links.findIdx? (leadsTo t) with
        | none => rfl
        | some i =>
            obtain ⟨bound, leads, -⟩ := List.findIdx?_eq_some_iff_getElem.mp search
            have located := chained.sound empty notHop (List.getElem?_eq_getElem bound) leads
            have misses := List.findIdx?_eq_none_iff.mp first t (List.mem_of_getElem? located)
            simp at misses
    | some i =>
        obtain ⟨bound, equal, before⟩ := List.findIdx?_eq_some_iff_getElem.mp first
        have located := List.getElem?_eq_getElem bound
        rw [decide_eq_true_eq] at equal
        rw [equal] at located
        have linked := chained.link i t located fun both => away both.1 i first both.2
        obtain ⟨inside, value⟩ := List.getElem?_eq_some_iff.mp linked
        have search : d.links.findIdx? (leadsTo t) = some i := by
          refine List.findIdx?_eq_some_iff_getElem.mpr ⟨inside, ?_, fun j earlier leads => ?_⟩
          · rw [value]
            exact (leadsTo_octet (chained.supported t (List.mem_of_getElem? located))).mpr rfl
          · have same := chained.sound empty notHop (List.getElem?_eq_getElem (by omega)) leads
            obtain ⟨early, same⟩ := List.getElem?_eq_some_iff.mp same
            exact before j earlier (decide_eq_true same)
        rw [search]
        exact if_pos (by omega)

/-- Exactly when the search gives the first header of the type. -/
theorem findHeader_iff (chained : d.Chained copied) (t : IPv6ExtHeader) :
    d.findHeader t = .ok (d.types.findIdx? (· = t)) ↔ (t = .hop → d.extHdrs = []) ∧
        (copied → ∀ i, d.types.findIdx? (· = t) = some i → ¬ d.AfterFragment i) := by
  constructor
  · intro found
    refine ⟨?_, fun isCopied i first here => ?_⟩
    · rintro rfl
      by_contra nonempty
      rw [chained.findIdx?_hop] at found
      exact chained.findHeader_hop nonempty found
    · have notHop : t ≠ .hop := by
        rintro rfl
        rw [chained.findIdx?_hop] at first
        cases first
      rw [first] at found
      exact chained.findHeader_cut isCopied notHop here found
  · rintro ⟨hop, away⟩
    by_cases isHop : t = .hop
    · subst isHop
      rw [chained.findIdx?_hop, findHeader_eq, if_pos (hop rfl)]
    · exact chained.findHeader_first isHop away

end Chained

theorem Chained.congr {copied : Prop} (chained : d.Chained copied)
    (first : d'.nextHeader = d.nextHeader) (headers : d'.extHdrs = d.extHdrs) : d'.Chained copied := by
  have links : d'.links = d.links := by rw [IPv6Datagram.links, first, headers, IPv6Datagram.links]
  have types : d'.types = d.types := by rw [IPv6Datagram.types, headers, IPv6Datagram.types]
  have after : ∀ i, d'.AfterFragment i ↔ d.AfterFragment i := by
    intro i
    unfold AfterFragment
    rw [types]
  refine ⟨types ▸ chained.supported, fun i t located away => ?_, fun isCopied i here => ?_,
    fun nonempty => ?_⟩
  · rw [links]
    exact chained.link i t (types ▸ located) fun both => away ⟨both.1, (after i).mpr both.2⟩
  · rw [links]
    exact chained.cut isCopied i ((after i).mp here)
  · rw [links, headers]
    exact chained.last (headers ▸ nonempty)

theorem chained_create (src dest : Ipv6Addr) : (create src dest).Chained False where
  supported := fun t absent => absurd absent List.not_mem_nil
  link := fun i t located => by simp [types, create] at located
  cut := False.elim
  last := fun nonempty => absurd rfl nonempty

theorem addExtHdr_chained {hdrType : IPv6ExtHeader} {proc : Option Nat}
    (chained : d.Chained False) (done : d.addExtHdr hdrType = .ok (proc, d')) : d'.Chained False := by
  cases hdrType with
  | hop =>
      cases done
      exact chained
  | routing =>
      cases done
      exact chained_pushExtHdr chained (Or.inl rfl)
  | fragment =>
      cases done
      exact chained_pushExtHdr chained (Or.inr (Or.inl rfl))
  | dest =>
      cases done
      exact chained_pushExtHdr chained (Or.inr (Or.inr rfl))
  | esp => cases done
  | auth => cases done
  | uninitialised => cases done

theorem acquire_chained {cached : IPv6Datagram → Option Nat}
    {cache : Option Nat → IPv6Datagram → IPv6Datagram} {hdrType : IPv6ExtHeader} {proc : Option Nat}
    (only : ∀ p d, (cache p d).nextHeader = d.nextHeader ∧ (cache p d).extHdrs = d.extHdrs)
    (chained : d.Chained False) (done : acquire cached cache hdrType d = .ok (proc, d')) : d'.Chained False := by
  obtain ⟨found, -, done⟩ := bind_eq_ok.mp done
  cases found with
  | some i =>
      obtain ⟨_, -, done⟩ := bind_eq_ok.mp done
      cases done
      exact chained.congr (only _ _).1 (only _ _).2
  | none =>
      obtain ⟨⟨p, pushed⟩, added, done⟩ := bind_eq_ok.mp done
      cases done
      exact (addExtHdr_chained chained added).congr (only _ _).1 (only _ _).2

theorem step_chained {op : HeaderOp} (chained : d.Chained False) (done : op.step d = .ok d') :
    d'.Chained False := by
  cases op with
  | addExtHdr hdrType =>
      obtain ⟨⟨proc, pushed⟩, added, done⟩ := bind_eq_ok.mp done
      cases done
      exact addExtHdr_chained chained added
  | acquireRoutingInterface =>
      obtain ⟨⟨proc, pushed⟩, acquired, done⟩ := bind_eq_ok.mp done
      cases done
      exact acquire_chained (by intro _ _; exact ⟨rfl, rfl⟩) chained acquired
  | acquireFragInterface =>
      obtain ⟨⟨proc, pushed⟩, acquired, done⟩ := bind_eq_ok.mp done
      cases done
      exact acquire_chained (by intro _ _; exact ⟨rfl, rfl⟩) chained acquired
  | acquireDestInterface =>
      obtain ⟨⟨proc, pushed⟩, acquired, done⟩ := bind_eq_ok.mp done
      cases done
      exact acquire_chained (by intro _ _; exact ⟨rfl, rfl⟩) chained acquired

theorem run_chained {ops : List HeaderOp} (chained : d.Chained False)
    (built : run HeaderOp.step d ops = .ok d') : d'.Chained False := by
  induction ops generalizing d with
  | nil =>
      cases built
      exact chained
  | cons op rest ih =>
      obtain ⟨middle, first, built⟩ := bind_eq_ok.mp built
      exact ih (step_chained chained first) built

theorem types_copy (d : IPv6Datagram) (copies : List CopyOp) : (copies.foldl CopyOp.copy d).types = d.types := by
  induction copies generalizing d with
  | nil => rfl
  | cons op rest ih =>
      rw [List.foldl_cons, ih]
      cases op <;> exact types_dup d

theorem chained_copy {copied : Prop} (chained : d.Chained copied) (copies : List CopyOp) :
    (copies.foldl CopyOp.copy d).Chained (copied ∨ copies ≠ []) := by
  induction copies generalizing d copied with
  | nil => simpa using chained
  | cons op rest ih =>
      have first : (op.copy d).Chained True := by
        cases op with
        | dup => exact chained_dup chained
        | assign dest => exact (chained_dup chained).congr rfl rfl
      simpa using ih first

/-- Of a datagram that was built and copied, the search gives the first header of the
type exactly if the type is not the hop-by-hop one, which is never stored, and a copy
has no fragment header right before that header. -/
theorem findHeader_copied_iff (src dest : Ipv6Addr) (ops : List HeaderOp) (copies : List CopyOp)
    (t : IPv6ExtHeader) (built : run HeaderOp.step (create src dest) ops = .ok d) :
    (copies.foldl CopyOp.copy d).findHeader t =
        .ok ((copies.foldl CopyOp.copy d).types.findIdx? (· = t)) ↔
      (t = .hop → d.extHdrs = []) ∧
        (copies ≠ [] → ∀ i, d.types.findIdx? (· = t) = some i → ¬ d.AfterFragment i) := by
  have chained := chained_copy (run_chained (chained_create src dest) built) copies
  have types := types_copy d copies
  have empty : (copies.foldl CopyOp.copy d).extHdrs = [] ↔ d.extHdrs = [] := by
    rw [← List.map_eq_nil_iff (f := (·.type)), ← List.map_eq_nil_iff (f := (·.type)) (l := d.extHdrs)]
    exact Eq.congr_left types
  have after : ∀ i, (copies.foldl CopyOp.copy d).AfterFragment i ↔ d.AfterFragment i := by
    intro i
    unfold AfterFragment
    rw [types]
  rw [chained.findHeader_iff, empty, types]
  simp only [after, false_or]

theorem findHeader_dest_of_copy :
    ∃ d, run HeaderOp.step (create .unspecified .loopback)
        [.acquireDestInterface, .acquireFragInterface, .addExtHdr .routing] = .ok d ∧
      d.dup.findHeader .dest = .ok (some 0) := by
  refine ⟨_, rfl, (findHeader_copied_iff .unspecified .loopback
    [.acquireDestInterface, .acquireFragInterface, .addExtHdr .routing] [.dup] .dest rfl).mpr
    ⟨fun same => (by cases same), fun _ i first => ?_⟩⟩
  cases first
  rintro ⟨j, same, -⟩
  cases same

/-- A copy loses the routing header behind a fragment header, and the search for the
hop-by-hop type reads past the end. -/
theorem copied_fragment_hides_routing :
    ∃ d, run HeaderOp.step (create .unspecified .loopback)
        [.acquireFragInterface, .acquireRoutingInterface] = .ok d ∧
      d.dup.types = [.fragment, .routing] ∧ d.dup.findHeader .routing = .ok none ∧
      d.findHeader .hop = .error .outOfBounds :=
  ⟨_, rfl, rfl, rfl, rfl⟩

end IPv6Datagram

end IPv6Suite
