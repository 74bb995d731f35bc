import IPv6Suite.SourceRoute
import IPv6Suite.Lib.Ensures

namespace IPv6Suite

open Lib

namespace HdrExtRte

/-- Processing the header takes a segment from it. -/
def Live (rh : HdrExtRte) : Prop :=
  rh.segmentsLeft ≠ 0 ∧ rh.hdrExtLen.toNat % 2 = 0 ∧ rh.segmentsLeft.toNat ≤ rh.nAddr
deriving Decidable

/-- Processing the header also sends the datagram on. -/
def Forwards (rh : HdrExtRte) (hopLimit : BitVec 16) : Prop :=
  rh.Live ∧ (∀ a ∈ rh.addr[rh.nAddr - rh.segmentsLeft.toNat]?, a.isMulticast = false) ∧ 1 < hopLimit.toInt
deriving Decidable

/-- How many of the headers have other segments left afterwards -/
def changedSegments (before after : List HdrExtRte) : Nat :=
  (before.zip after).countP fun rhs => rhs.1.segmentsLeft ≠ rhs.2.segmentsLeft

/-- The copies the loop sends for these headers -/
def copies (hopLimit : BitVec 16) : List HdrExtRte → Nat
  | [] => 0
  | rh :: rest =>
      if rh.segmentsLeft = 0 then copies hopLimit rest
      else if rh.Forwards hopLimit then copies hopLimit rest + 1 else 0

/-- The segments the loop takes from these headers -/
def changes (hopLimit : BitVec 16) : List HdrExtRte → Nat
  | [] => 0
  | rh :: rest =>
      if rh.segmentsLeft = 0 then changes hopLimit rest
      else if rh.Forwards hopLimit then changes hopLimit rest + 1 else if rh.Live then 1 else 0

/-- No header that sends the datagram on has one with a segment to take behind it, those without
segments left not counted. -/
def OneHop (hopLimit : BitVec 16) (rheads : List HdrExtRte) : Prop :=
  ∀ first second later, rheads.filter (·.segmentsLeft ≠ 0) = first :: second :: later →
    first.Forwards hopLimit → ¬ second.Live

variable {hopLimit : BitVec 16}

theorem changes_filter (rheads : List HdrExtRte) :
    changes hopLimit (rheads.filter (·.segmentsLeft ≠ 0)) = changes hopLimit rheads := by
  induction rheads with
  | nil => rfl
  | cons rh rest ih =>
      by_cases none : rh.segmentsLeft = 0
      · rw [List.filter_cons_of_neg (by simpa using none), ih, changes, if_pos none]
      · rw [List.filter_cons_of_pos (by simpa using none), changes, changes, ih]

theorem copies_le_changes (rheads : List HdrExtRte) : copies hopLimit rheads ≤ changes hopLimit rheads := by
  induction rheads with
  | nil => exact Nat.le_refl 0
  | cons rh rest ih =>
      unfold copies changes
      split
      · exact ih
      · split
        · omega
        · exact Nat.zero_le _

theorem changes_live {rh : HdrExtRte} (rest : List HdrExtRte) (live : rh.Live) :
    1 ≤ changes hopLimit (rh :: rest) := by
  rw [changes, if_neg live.1]
  split
  · omega
  · exact Nat.le_refl 1

theorem changes_not_live {rh : HdrExtRte} (rest : List HdrExtRte) (left : rh.segmentsLeft ≠ 0) (dead : ¬ rh.Live) :
    changes hopLimit (rh :: rest) = 0 := by
  rw [changes, if_neg left, if_neg (fun forwards => dead forwards.1), if_neg dead]

theorem changes_le_one_iff (rheads : List HdrExtRte) : changes hopLimit rheads ≤ 1 ↔ OneHop hopLimit rheads := by
  unfold OneHop
  rw [← changes_filter]
  have left : ∀ rh ∈ rheads.filter (·.segmentsLeft ≠ 0), rh.segmentsLeft ≠ 0 := by
    intro rh member
    simpa using (List.mem_filter.mp member).2
  generalize rheads.filter (·.segmentsLeft ≠ 0) = pending at left
  cases pending with
  | nil => simp [changes]
  | cons first rest =>
      have someLeft := left first List.mem_cons_self
      rw [changes, if_neg someLeft]
      cases rest with
      | nil =>
          constructor
          · intro _ _ _ _ same
            cases same
          · intro _
            split
            · exact Nat.le_refl 1
            · split
              · exact Nat.le_refl 1
              · exact Nat.zero_le 1
      | cons second later =>
          have nextLeft := left second (by simp)
          by_cases forwards : first.Forwards hopLimit
          · rw [if_pos forwards]
            constructor
            · intro one a b c same _ live
              cases same
              have more : 1 ≤ changes hopLimit (second :: later) := changes_live later live
              omega
            · intro apart
              have none : changes hopLimit (second :: later) = 0 :=
                changes_not_live later nextLeft (apart first second later rfl forwards)
              omega
          · rw [if_neg forwards]
            constructor
            · intro _ a b c same sends
              cases same
              exact absurd sends forwards
            · intro _
              split
              · exact Nat.le_refl 1
              · exact Nat.zero_le 1

end HdrExtRte

def RouteOutput.isCopy : RouteOutput → Bool
  | .routingOut _ => true
  | _ => false

namespace IPv6Datagram

variable {d : IPv6Datagram} {j i : Nat} {rh : HdrExtRte}

/-- `HdrExtRteProc::processHeader`, of the extension header `j` -/
def processRoutingHeader (d : IPv6Datagram) (j : Nat) : Exec (Bool × IPv6Datagram × List RouteOutput) := do
  let proc ← Exec.deref .nullDeref d.extHdrs[j]?
  processRheads j proc.rheads.length 0 (d.cumulLengthInUnits j) d

theorem setRhead_self (held : d.rhead j i = some rh) : (d.setRhead j i rh).extHdrs = d.extHdrs := by
  apply List.ext_getElem?
  intro k
  rw [setRhead, List.getElem?_modify]
  split
  · rename_i here
    subst here
    cases proc : d.extHdrs[j]? with
    | none => rfl
    | some proc' =>
        rw [rhead, proc, Option.bind_some] at held
        obtain ⟨bound, is⟩ := List.getElem?_eq_some_iff.mp held
        have unchanged : proc'.rheads.set i rh = proc'.rheads := by
          rw [← is]
          exact List.set_getElem_self bound
        simp [unchanged]
  · simp

/-- A header whose segments are not taken sends nothing on. -/
theorem processRte_dead (held : d.rhead j i = some rh) (dead : ¬ rh.Live) {sent : List RouteOutput}
    (errors : sent.countP (·.isCopy) = 0) :
    (false = true ↔ rh.Forwards d.hopLimit) ∧ d.hopLimit = d.hopLimit ∧
      (sent.countP (·.isCopy) = if rh.Forwards d.hopLimit then 1 else 0) ∧
      ∃ rh', d.extHdrs = (d.setRhead j i rh').extHdrs ∧ (rh.segmentsLeft ≠ rh'.segmentsLeft ↔ rh.Live) := by
  have stays : ¬ rh.Forwards d.hopLimit := fun forwards => dead forwards.1
  refine ⟨by simp [stays], rfl, ?_, rh, (setRhead_self held).symm, by simp [dead]⟩
  rw [errors, if_neg stays]

theorem processRte_spec (held : d.rhead j i = some rh) (left : rh.segmentsLeft ≠ 0) (cumul : Nat) :
    OnReturn (fun r => (r.1 = true ↔ rh.Forwards d.hopLimit) ∧ r.2.1.hopLimit = d.hopLimit ∧
        (r.2.2.countP (·.isCopy) = if rh.Forwards d.hopLimit then 1 else 0) ∧
        ∃ rh', r.2.1.extHdrs = (d.setRhead j i rh').extHdrs ∧ (rh.segmentsLeft ≠ rh'.segmentsLeft ↔ rh.Live))
      (d.processRte j i cumul) := by
  unfold processRte
  rw [held, deref_some, ok_bind]
  apply (Ensures.returned (fun _ _ => True.intro)).bind
  intro _ unicast
  rw [assert_eq_ok] at unicast
  rw [if_neg left]
  apply Ensures.ite
  · intro odd
    exact processRte_dead held (fun live => odd live.2.1) rfl
  intro even
  apply Ensures.ite
  · intro more
    exact processRte_dead held (fun live => Nat.not_lt.mpr live.2.2 more) rfl
  intro enough
  have live : rh.Live := ⟨left, not_not.mp even, Nat.not_lt.mp enough⟩
  have some : 1 ≤ rh.segmentsLeft.toNat := by
    have apart : rh.segmentsLeft.toNat ≠ 0 := fun none => left (BitVec.eq_of_toNat_eq none)
    omega
  have taken : (rh.segmentsLeft - 1).toNat = rh.segmentsLeft.toNat - 1 := BitVec.toNat_sub_of_le (by exact some)
  have changed : rh.segmentsLeft ≠ rh.segmentsLeft - 1 := by
    intro same
    have less := congrArg BitVec.toNat same
    omega
  have index : rh.nAddr - (rh.segmentsLeft - 1).toNat - 1 = rh.nAddr - rh.segmentsLeft.toNat := by
    rw [taken]
    omega
  simp only [index]
  apply (Ensures.returned (fun _ _ => True.intro)).bind
  intro swapAddr next
  rw [deref_eq_ok] at next
  apply Ensures.ite
  · intro multicast
    have stays : ¬ rh.Forwards d.hopLimit := by
      intro forwards
      simp [forwards.2.1 swapAddr next, unicast] at multicast
    exact ⟨by simp [stays], rfl, by simp [stays], _, rfl, iff_of_true changed live⟩
  intro unicastNext
  apply Ensures.ite
  · intro expired
    have stays : ¬ rh.Forwards d.hopLimit := fun forwards => Int.not_lt.mpr expired forwards.2.2
    exact ⟨by simp [stays], rfl, by simp [stays, RouteOutput.isCopy], _, rfl, iff_of_true changed live⟩
  · intro alive
    have forwards : rh.Forwards d.hopLimit := by
      refine ⟨live, ?_, Int.not_le.mp alive⟩
      rw [next]
      simpa [unicast] using unicastNext
    exact ⟨by simp [forwards], rfl, by simp [forwards, RouteOutput.isCopy], _, rfl, iff_of_true changed live⟩

/-- The routing headers of the extension header `j` -/
def rheadsOf (d : IPv6Datagram) (j : Nat) : Option (List HdrExtRte) := d.extHdrs[j]?.map (·.rheads)

section

variable {d' : IPv6Datagram} {front rest : List HdrExtRte}

theorem rhead_of_split (split : d.rheadsOf j = some (front ++ rh :: rest)) : d.rhead j front.length = some rh := by
  obtain ⟨proc, held, are⟩ := Option.map_eq_some_iff.mp split
  rw [rhead, held, Option.bind_some, are, List.getElem?_append_right (Nat.le_refl _), Nat.sub_self]
  rfl

theorem rheadsOf_setRhead (split : d.rheadsOf j = some (front ++ rh :: rest)) {rh' : HdrExtRte}
    (set : d'.extHdrs = (d.setRhead j front.length rh').extHdrs) : d'.rheadsOf j = some (front ++ rh' :: rest) := by
  obtain ⟨proc, held, are⟩ := Option.map_eq_some_iff.mp split
  rw [rheadsOf, set]
  simp [setRhead, held, are]

theorem changedSegments_self (rheads : List HdrExtRte) : HdrExtRte.changedSegments rheads rheads = 0 := by
  induction rheads with
  | nil => rfl
  | cons rh rest ih =>
      rw [HdrExtRte.changedSegments, List.zip_cons_cons, List.countP_cons_of_neg (by simp)]
      exact ih

theorem changedSegments_cons (rh rh' : HdrExtRte) (rest rest' : List HdrExtRte) :
    HdrExtRte.changedSegments (rh :: rest) (rh' :: rest') =
      HdrExtRte.changedSegments rest rest' + if rh.segmentsLeft ≠ rh'.segmentsLeft then 1 else 0 := by
  simp only [HdrExtRte.changedSegments, List.zip_cons_cons, List.countP_cons, decide_eq_true_eq]

/-- What the loop has sent and changed when it returns, from a header on. By induction on the headers that are
left. -/
theorem processRheads_spec (split : d.rheadsOf j = some (front ++ rest)) (cumul : Nat) :
    OnReturn (fun r => ∃ rest', r.2.1.rheadsOf j = some (front ++ rest') ∧
        HdrExtRte.changedSegments rest rest' = HdrExtRte.changes d.hopLimit rest ∧
        r.2.2.countP (·.isCopy) = HdrExtRte.copies d.hopLimit rest)
      (processRheads j rest.length front.length cumul d) := by
  induction rest generalizing front cumul d with
  | nil => exact ⟨[], split, rfl, rfl⟩
  | cons rh rest ih =>
      have held := rhead_of_split split
      rw [List.length_cons]
      unfold processRheads
      rw [held, deref_some, ok_bind]
      have next (rh' : HdrExtRte) : front.length + 1 = (front ++ [rh']).length := by simp
      split
      · rename_i left
        apply (Ensures.returned (fun _ _ => True.intro)).bind
        intro _ _
        apply (processRte_spec held left _).bind
        rintro ⟨success, d', sent⟩ ⟨goesOn, sameLimit, copy, rh', set, taken⟩
        have split' := rheadsOf_setRhead split set
        dsimp only at goesOn sameLimit copy ⊢
        rw [HdrExtRte.changes, HdrExtRte.copies, if_neg left, if_neg left]
        apply Ensures.ite
        · intro succeeded
          have forwards := goesOn.mp succeeded
          have step : d'.rheadsOf j = some ((front ++ [rh']) ++ rest) := by
            rw [split', List.append_assoc, List.singleton_append]
          have onward := ih step (cumul + rh.lengthInUnits)
          rw [← next] at onward
          apply onward.bind
          rintro ⟨_, d'', later⟩ ⟨rest', final, changed, copied⟩
          dsimp only at final changed copied ⊢
          rw [sameLimit] at changed copied
          refine ⟨rh' :: rest', ?_, ?_, ?_⟩
          · rw [final, List.append_assoc, List.singleton_append]
          · rw [changedSegments_cons, if_pos (taken.mpr forwards.1), changed, if_pos forwards]
          · rw [List.countP_append, copy, if_pos forwards, copied, if_pos forwards, Nat.add_comm]
        · intro failed
          have stays : ¬ rh.Forwards d.hopLimit := fun forwards => failed (goesOn.mpr forwards)
          refine ⟨rh' :: rest, split', ?_, ?_⟩
          · rw [changedSegments_cons, changedSegments_self, if_neg stays, Nat.zero_add]
            simp only [taken]
          · rw [copy, if_neg stays, if_neg stays]
      · rename_i done
        rw [not_not] at done
        have step : d.rheadsOf j = some ((front ++ [rh]) ++ rest) := by
          rw [split, List.append_assoc, List.singleton_append]
        have onward := ih step (cumul + rh.lengthInUnits)
        rw [← next] at onward
        apply onward.imp
        rintro ⟨_, d', sent⟩ ⟨rest', final, changed, copied⟩
        refine ⟨rh :: rest', ?_, ?_, ?_⟩
        · rw [final, List.append_assoc, List.singleton_append]
        · rw [changedSegments_cons, if_neg (by simp), changed, HdrExtRte.changes, if_pos done, Nat.add_zero]
        · rw [copied, HdrExtRte.copies, if_pos done]

end

/-- A call that returns has sent at most one copy and taken at most one segment, unless a header that sent the
datagram on had another behind it. -/
theorem processRoutingHeader_once_iff (d : IPv6Datagram) (j : Nat) (rheads : List HdrExtRte)
    (held : d.rheadsOf j = some rheads) :
    OnReturn (fun r => (r.2.2.countP (·.isCopy) ≤ 1 ∧
        ∃ rheads', r.2.1.rheadsOf j = some rheads' ∧ HdrExtRte.changedSegments rheads rheads' ≤ 1) ↔
        HdrExtRte.OneHop d.hopLimit rheads)
      (d.processRoutingHeader j) := by
  obtain ⟨proc, located, are⟩ := Option.map_eq_some_iff.mp held
  unfold processRoutingHeader
  rw [located, deref_some, ok_bind, are]
  have whole : d.rheadsOf j = some ([] ++ rheads) := held
  apply (processRheads_spec whole _).imp
  rintro ⟨_, d', sent⟩ ⟨rheads', final, changed, copied⟩
  dsimp only at final changed copied ⊢
  rw [List.nil_append] at final
  have fewer : HdrExtRte.copies d.hopLimit rheads ≤ HdrExtRte.changes d.hopLimit rheads :=
    HdrExtRte.copies_le_changes rheads
  rw [← HdrExtRte.changes_le_one_iff, copied]
  constructor
  · rintro ⟨-, after, same, once⟩
    rw [final] at same
    cases same
    rw [← changed]
    exact once
  · intro once
    exact ⟨Nat.le_trans fewer once, rheads', final, by omega⟩

def hopAddr (low : BitVec 32) : Ipv6Addr := ⟨0x20010db8, 0, 0, low⟩

def oneSegment : HdrExtRte := ⟨0, 2, type0RtHdr, 1, [hopAddr 2], false⟩

def oneHome : HdrExtRte := ⟨0, 2, type2RtHdr, 1, [hopAddr 3], true⟩

def twoRoutes : IPv6Datagram :=
  { create (hopAddr 9) (hopAddr 1) with hopLimit := 64, extHdrs := [⟨.routing, 0, [oneSegment, oneHome], []⟩] }

theorem processRoutingHeader_once_iff_twoRoutes :
    OnReturn (fun r => (r.2.2.countP (·.isCopy) ≤ 1 ∧
        ∃ rheads', r.2.1.rheadsOf 0 = some rheads' ∧ HdrExtRte.changedSegments [oneSegment, oneHome] rheads' ≤ 1) ↔
        HdrExtRte.OneHop 64 [oneSegment, oneHome])
      (twoRoutes.processRoutingHeader 0) :=
  processRoutingHeader_once_iff twoRoutes 0 [oneSegment, oneHome] rfl

/-- Both headers are accepted, and one call sends two copies and takes a segment from each. -/
theorem twoRoutes_sends_two :
    ((HdrExtProc.create .routing).addRoutingHeader oneSegment).1 = true ∧
      ((HdrExtProc.create .routing).addRoutingHeader oneSegment).2.addRoutingHeader oneHome =
        (true, ⟨.routing, 0, [oneSegment, oneHome], []⟩) ∧
      (twoRoutes.processRoutingHeader 0).map (fun r => (r.2.2.countP (·.isCopy),
          (r.2.1.rheadsOf 0).map (HdrExtRte.changedSegments [oneSegment, oneHome]))) =
        .ok (2, some 2) := by
  decide +kernel

end IPv6Datagram

/-! ### Copies of routing headers -/

namespace HdrExtRte

/-- The addresses of the vector, as many as the extension length says -/
def addresses (rh : HdrExtRte) : List Ipv6Addr := rh.addr.take rh.nAddr

/-- Two headers agree in everything a datagram carries of them. -/
def Same (rh rh' : HdrExtRte) : Prop :=
  rh.routingType = rh'.routingType ∧ rh.addresses = rh'.addresses ∧ rh.segmentsLeft = rh'.segmentsLeft ∧
    rh.hdrExtLen = rh'.hdrExtLen ∧ rh.nextHeader = rh'.nextHeader
deriving Decidable

/-- Nothing of the header has been set but its type. -/
def Blank (rh : HdrExtRte) : Prop := rh.hdrExtLen = 0 ∧ rh.segmentsLeft = 0 ∧ rh.nextHeader = 0

@[simp] theorem routingType_dup (rh : HdrExtRte) : rh.dup.routingType = type0RtHdr := by
  unfold dup
  split
  · rfl
  · rfl

theorem dup_same_iff (rh : HdrExtRte) :
    rh.dup.Same rh ↔ rh.routingType = type0RtHdr ∧ (0 < rh.nAddr ∨ rh.Blank) := by
  unfold Same
  rw [routingType_dup, eq_comm (a := type0RtHdr)]
  apply and_congr_right
  intro _
  unfold dup
  split
  · rename_i some
    have copied : (rh.addr.take rh.nAddr).take rh.nAddr = rh.addr.take rh.nAddr := by
      rw [List.take_take, Nat.min_self]
    exact iff_of_true ⟨copied, rfl, rfl, rfl⟩ (.inl some)
  · rename_i empty
    have none : rh.nAddr = 0 := by omega
    have addresses : rh.addresses = [] := by
      rw [HdrExtRte.addresses, none]
      rfl
    rw [addresses, or_iff_right empty]
    constructor
    · rintro ⟨-, segments, length, next⟩
      exact ⟨length.symm, segments.symm, next.symm⟩
    · rintro ⟨length, segments, next⟩
      exact ⟨List.take_nil, segments.symm, length.symm, next.symm⟩

end HdrExtRte

namespace HdrExtProc

theorem routingHeader_isSome (proc : HdrExtProc) (t : BitVec 8) :
    (proc.routingHeader t).isSome = true ↔ ∃ rh ∈ proc.rheads, rh.routingType = t := by
  unfold routingHeader
  rw [List.findIdx?_isSome]
  simp

theorem routingHeader_dup {proc : HdrExtProc} (routing : proc.type = .routing) :
    (∀ t, (proc.dup.routingHeader t).isSome = (proc.routingHeader t).isSome) ↔
      ∀ rh ∈ proc.rheads, rh.routingType = type0RtHdr := by
  have copied : proc.dup.rheads = proc.rheads.map (·.dup) := by simp [dup, routing]
  have found (t : BitVec 8) : (proc.dup.routingHeader t).isSome = true ↔ ∃ rh ∈ proc.rheads, type0RtHdr = t := by
    rw [routingHeader_isSome, copied]
    simp
  constructor
  · intro alike rh member
    have here := (proc.routingHeader_isSome rh.routingType).mpr ⟨rh, member, rfl⟩
    rw [← alike] at here
    obtain ⟨_, _, zero⟩ := (found rh.routingType).mp here
    exact zero.symm
  · intro zero t
    rw [Bool.eq_iff_iff, found, routingHeader_isSome]
    constructor
    · rintro ⟨rh, member, rfl⟩
      exact ⟨rh, member, zero rh member⟩
    · rintro ⟨rh, member, rfl⟩
      exact ⟨rh, member, (zero rh member).symm⟩

end HdrExtProc

namespace IPv6Datagram

/-- A routing header is copied in full when it is of type 0 and has addresses or nothing set, and the copy of a
datagram has routing headers of the same types when all of its own are of type 0. -/
theorem dup_keeps_iff (rh : HdrExtRte) (d : IPv6Datagram) :
    (rh.dup.Same rh ↔ rh.routingType = type0RtHdr ∧ (0 < rh.nAddr ∨ rh.Blank)) ∧
      ((∀ (j : Nat) (proc : HdrExtProc), d.extHdrs[j]? = some proc → proc.type = .routing →
          ∃ copy, d.dup.extHdrs[j]? = some copy ∧ ∀ t, (copy.routingHeader t).isSome = (proc.routingHeader t).isSome) ↔
        ∀ proc ∈ d.extHdrs, proc.type = .routing → ∀ rh ∈ proc.rheads, rh.routingType = type0RtHdr) := by
  refine ⟨rh.dup_same_iff, ?_⟩
  have copies (j : Nat) : d.dup.extHdrs[j]? = d.extHdrs[j]?.map (·.dup) := List.getElem?_map
  constructor
  · intro alike proc member routing
    obtain ⟨j, at_⟩ := List.mem_iff_getElem?.mp member
    obtain ⟨copy, copied, found⟩ := alike j proc at_ routing
    rw [copies, at_] at copied
    cases copied
    exact (HdrExtProc.routingHeader_dup routing).mp found
  · intro zero j proc at_ routing
    refine ⟨proc.dup, by rw [copies, at_]; rfl, ?_⟩
    exact (HdrExtProc.routingHeader_dup routing).mpr (zero proc (List.mem_iff_getElem?.mpr ⟨j, at_⟩) routing)

/-- The copy of a type 2 header is of type 0, so that it is not found in the copy of its datagram. -/
theorem oneHome_copied_as_type0 :
    oneHome.dup.routingType = type0RtHdr ∧ ¬ oneHome.dup.Same oneHome ∧
      twoRoutes.extHdrs[0]?.map (fun proc => (proc.routingHeader type2RtHdr).isSome) = some true ∧
      twoRoutes.dup.extHdrs[0]?.map (fun proc => (proc.routingHeader type2RtHdr).isSome) = some false := by
  decide

end IPv6Datagram

end IPv6Suite
