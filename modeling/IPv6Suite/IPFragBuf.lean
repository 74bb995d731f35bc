import IPv6Suite.IPFragmentation
import IPv6Suite.Lib.Exec
import IPv6Suite.Lib.StdMap

namespace IPv6Suite

open Lib

namespace IPFragBuf

/-- An offset range; `end'` is the last offset + 1. -/
structure Region where
  (beg end' : BitVec 16)
  islast : Bool
deriving DecidableEq

/-- The reassembly buffer for one datagram; `fragments` is empty where the source has a null
pointer. -/
structure ReassemblyBuffer where
  main : Region
  fragments : List Region
  datagram : IPDatagram
  lastupdate : Nat

structure Key where
  id : BitVec 16
  src : BitVec 32
  dest : BitVec 32
deriving DecidableEq

namespace Key

def lt (a b : Key) : Prop :=
  if a.id ≠ b.id then a.id < b.id else if a.src ≠ b.src then a.src < b.src else a.dest < b.dest

instance : DecidableRel lt := fun a b =>
  inferInstanceAs (Decidable (if a.id ≠ b.id then a.id < b.id
    else if a.src ≠ b.src then a.src < b.src else a.dest < b.dest))

def value (k : Key) : Nat := (k.id.toNat * 2 ^ 32 + k.src.toNat) * 2 ^ 32 + k.dest.toNat

theorem lt_iff (a b : Key) : a.lt b ↔ a.value < b.value := by
  have bounds := And.intro (And.intro a.src.isLt b.src.isLt) (And.intro a.dest.isLt b.dest.isLt)
  unfold lt value
  simp only [ne_eq, BitVec.lt_def, ← BitVec.toNat_inj]
  split_ifs
  · omega
  · omega
  · omega

theorem value_inj {a b : Key} (same : a.value = b.value) : a = b := by
  have bounds := And.intro (And.intro a.src.isLt b.src.isLt) (And.intro a.dest.isLt b.dest.isLt)
  obtain ⟨i₁, s₁, d₁⟩ := a
  obtain ⟨i₂, s₂, d₂⟩ := b
  simp only [value] at same bounds
  simp only [mk.injEq, ← BitVec.toNat_inj]
  omega

instance : IsStrictTotalOrder Key lt where
  trichotomous a b below above := by
    rw [lt_iff] at below above
    exact value_inj (by omega)
  irrefl a := by
    rw [lt_iff]
    omega
  trans a b c first second := by
    rw [lt_iff] at *
    omega

end Key

abbrev Buffers := StdMap Key ReassemblyBuffer Key.lt

def key (datagram : IPDatagram) : Key where
  id := datagram.identification.setWidth 16
  src := datagram.srcAddress
  dest := datagram.destAddress

/-- One pass over the stored fragments; the flag tells that one was deleted. -/
def mergePass (main : Region) : List Region → Region × List Region × Bool
  | [] => (main, [], false)
  | frag :: frags =>
      if main.end' = frag.beg then
        let (main, frags, _) :=
          mergePass { main with end' := frag.end', islast := main.islast || frag.islast } frags
        (main, frags, true)
      else if main.beg = frag.end' then
        let (main, frags, _) := mergePass { main with beg := frag.beg } frags
        (main, frags, true)
      else if main.beg ≤ frag.beg ∧ frag.end' ≤ main.end' then
        let (main, frags, _) := mergePass main frags
        (main, frags, true)
      else
        let (main, frags, oncemore) := mergePass main frags
        (main, frag :: frags, oncemore)

/-- `do … while (oncemore)`; every pass but the last deletes a fragment. -/
def mergeFragments (main : Region) (frags : List Region) : (fuel : Nat) → Region × List Region
  | 0 => (main, frags)
  | fuel + 1 =>
      let (main, frags, oncemore) := mergePass main frags
      if oncemore then mergeFragments main frags fuel else (main, frags)

def merge (main : Region) (frags : List Region) (beg end' : BitVec 16) (islast : Bool) :
    Region × List Region :=
  if main.end' = beg then
    mergeFragments { main with end', islast := main.islast || islast } frags (frags.length + 1)
  else if main.beg = end' then mergeFragments { main with beg } frags (frags.length + 1)
  else if main.end' < beg ∨ end' < main.beg then (main, frags ++ [⟨beg, end', islast⟩])
  else (main, frags)

/-- The region that a datagram is; the offsets are stored as `ushort`. -/
def region (datagram : IPDatagram) : Region :=
  let beg := BitVec.ofNat 16 datagram.fragmentOffset
  ⟨beg, beg + BitVec.ofNat 16 datagram.payload, !datagram.moreFragments⟩

def addFragment (bufs : Buffers) (datagram : IPDatagram) (now : Nat) :
    Exec (Option IPDatagram × Buffers) :=
  let r := region datagram
  match bufs[key datagram]? with
  | none => do
      let bufs := bufs.insert (key datagram) ⟨r, [], datagram, now⟩
      Exec.assert (r.beg ≠ 0 ∨ ¬ r.islast)
      return (none, bufs)
  | some buf =>
      let (main, fragments) := merge buf.main buf.fragments r.beg r.end' r.islast
      let stored := if datagram.encapsulatedMsg.isSome then datagram else buf.datagram
      if main.beg = 0 ∧ main.islast then
        .ok (some (stored.setLength (stored.headerLength + main.end'.toNat)),
          bufs.erase (key datagram))
      else .ok (none, bufs.insert (key datagram) ⟨main, fragments, stored, now⟩)

end IPFragBuf

namespace IPFragBuf.Region

def extent (r : Region) : Extent Nat := ⟨r.beg.toNat, r.end'.toNat⟩

structure Parts (total : Nat) (all : List Region) : Prop where
  parts : Extent.Partitions (all.map extent) 0 total
  islast : ∀ r ∈ all, r.islast = decide (r.end'.toNat = total)

theorem Parts.unique {total : Nat} {all : List Region} {r r' : Region} {a : Nat}
    (parts : Parts total all) (mem : r ∈ all) (mem' : r' ∈ all) (contains : r.extent.Contains a)
    (contains' : r'.extent.Contains a) : r = r' := by
  have same := parts.parts.unique (List.mem_map_of_mem mem) (List.mem_map_of_mem mem') contains contains'
  have last := parts.islast r mem
  have last' := parts.islast r' mem'
  obtain ⟨beg, end', islast⟩ := r
  obtain ⟨beg', end'', islast'⟩ := r'
  have beg_eq : beg = beg' := BitVec.eq_of_toNat_eq (congrArg Extent.lo same)
  have end_eq : end' = end'' := BitVec.eq_of_toNat_eq (congrArg Extent.hi same)
  subst beg_eq end_eq
  congr 1
  exact last.trans last'.symm

theorem Parts.facts {total : Nat} {all : List Region} {r : Region} (parts : Parts total all)
    (mem : r ∈ all) : r.beg.toNat < r.end'.toNat ∧ r.end'.toNat ≤ total ∧
      r.islast = decide (r.end'.toNat = total) := by
  have mapped := List.mem_map_of_mem (f := extent) mem
  exact ⟨parts.parts.nonempty _ mapped, (parts.parts.bounds mapped).2, parts.islast r mem⟩

/-- The main region is made up of some that have arrived, and the others are stored. -/
structure Holds (total : Nat) (arrived merged : List Region) (main : Region)
    (stored : List Region) : Prop where
  merged_arrived : ∀ r ∈ merged, r ∈ arrived
  stored_arrived : ∀ r ∈ stored, r ∈ arrived
  kept : ∀ r ∈ arrived, r ∈ merged ∨ r ∈ stored
  region : Extent.Partitions (merged.map extent) main.beg.toNat main.end'.toNat
  filled : main.beg.toNat < main.end'.toNat
  islast : main.islast = decide (main.end'.toNat = total)

variable {total : Nat} {all arrived merged stored stored' : List Region} {main r : Region}

theorem Holds.congr (holds : Holds total arrived merged main stored)
    (same : ∀ r, r ∈ stored ↔ r ∈ stored') : Holds total arrived merged main stored' where
  merged_arrived := holds.merged_arrived
  stored_arrived := fun r mem => holds.stored_arrived r ((same r).mpr mem)
  kept := fun r mem => (holds.kept r mem).imp_right (same r).mp
  region := holds.region
  filled := holds.filled
  islast := holds.islast

theorem Holds.arrive (holds : Holds total arrived merged main stored) :
    Holds total (arrived ++ [r]) merged main (r :: stored) where
  merged_arrived := fun other mem => List.mem_append_left _ (holds.merged_arrived other mem)
  stored_arrived := by
    intro other mem
    rcases List.mem_cons.mp mem with rfl | mem
    · exact List.mem_append_right _ List.mem_cons_self
    · exact List.mem_append_left _ (holds.stored_arrived other mem)
  kept := by
    intro other mem
    rcases List.mem_append.mp mem with mem | mem
    · exact (holds.kept other mem).imp_right (List.mem_cons_of_mem r)
    · rw [List.mem_singleton.mp mem]
      exact Or.inr List.mem_cons_self
  region := holds.region
  filled := holds.filled
  islast := holds.islast

theorem Holds.follow (parts : Parts total all) (mem : r ∈ all)
    (holds : Holds total arrived merged main (r :: stored)) (next : main.end' = r.beg) :
    Holds total arrived (merged ++ [r]) { main with end' := r.end', islast := main.islast || r.islast } stored := by
  obtain ⟨filled, bound, last⟩ := parts.facts mem
  have some := holds.filled
  refine ⟨fun other inside => ?_, fun other inside => ?_, fun other inside => ?_, ?_, ?_, ?_⟩
  · rcases List.mem_append.mp inside with inside | inside
    · exact holds.merged_arrived other inside
    · rw [List.mem_singleton.mp inside]
      exact holds.stored_arrived r List.mem_cons_self
  · exact holds.stored_arrived other (List.mem_cons_of_mem r inside)
  · rcases holds.kept other inside with inside | inside
    · exact Or.inl (List.mem_append_left _ inside)
    · rcases List.mem_cons.mp inside with rfl | inside
      · exact Or.inl (List.mem_append_right _ List.mem_cons_self)
      · exact Or.inr inside
  · rw [List.map_append]
    refine holds.region.append ?_ (Nat.le_of_lt some) ?_
    · rw [next]
      exact .singleton filled
    · rw [next]
      exact Nat.le_of_lt filled
  · rw [next] at some
    exact Nat.lt_trans some filled
  · have notLast : main.islast = false := by
      rw [holds.islast, decide_eq_false_iff_not, next]
      omega
    rw [notLast, last, Bool.false_or]

theorem Holds.precede (parts : Parts total all) (mem : r ∈ all)
    (holds : Holds total arrived merged main (r :: stored)) (next : main.beg = r.end') :
    Holds total arrived (r :: merged) { main with beg := r.beg } stored := by
  obtain ⟨filled, -, -⟩ := parts.facts mem
  have some := holds.filled
  have region := holds.region
  refine ⟨fun other inside => ?_, fun other inside => ?_, fun other inside => ?_, ?_, ?_, holds.islast⟩
  · rcases List.mem_cons.mp inside with rfl | inside
    · exact holds.stored_arrived other List.mem_cons_self
    · exact holds.merged_arrived other inside
  · exact holds.stored_arrived other (List.mem_cons_of_mem r inside)
  · rcases holds.kept other inside with inside | inside
    · exact Or.inl (List.mem_cons_of_mem r inside)
    · rcases List.mem_cons.mp inside with rfl | inside
      · exact Or.inl List.mem_cons_self
      · exact Or.inr inside
  · rw [next] at region
    have first : Extent.Partitions [r.extent] r.beg.toNat r.end'.toNat := .singleton filled
    exact first.append region (Nat.le_of_lt filled) (next ▸ Nat.le_of_lt some)
  · rw [next] at some
    exact Nat.lt_trans filled some

theorem Holds.mem_merged (parts : Parts total all) (all_arrived : ∀ r ∈ arrived, r ∈ all)
    (mem : r ∈ all) (holds : Holds total arrived merged main stored)
    (overlap : r.beg.toNat < main.end'.toNat ∧ main.beg.toNat < r.end'.toNat) : r ∈ merged := by
  obtain ⟨filled, -, -⟩ := parts.facts mem
  have some := holds.filled
  have once := holds.region.once (max main.beg.toNat r.beg.toNat)
  rw [if_pos (by omega)] at once
  obtain ⟨extent, mapped, contains⟩ := Extent.exists_of_times_pos (by rw [once]; exact Nat.one_pos)
  obtain ⟨other, inside, rfl⟩ := List.mem_map.mp mapped
  have also : r.extent.Contains (max main.beg.toNat r.beg.toNat) :=
    ⟨Nat.le_max_right _ _, Nat.max_lt.mpr ⟨overlap.2, filled⟩⟩
  have same := parts.unique mem (all_arrived other (holds.merged_arrived other inside)) also contains
  rw [same]
  exact inside

theorem Holds.drop (holds : Holds total arrived merged main (r :: stored)) (mem : r ∈ merged) :
    Holds total arrived merged main stored where
  merged_arrived := holds.merged_arrived
  stored_arrived := fun other inside => holds.stored_arrived other (List.mem_cons_of_mem r inside)
  kept := by
    intro other inside
    rcases holds.kept other inside with inside | inside
    · exact Or.inl inside
    · rcases List.mem_cons.mp inside with rfl | inside
      · exact Or.inl mem
      · exact Or.inr inside
  region := holds.region
  filled := holds.filled
  islast := holds.islast

/-- The datagram is complete as soon as all regions have arrived, if none that touches the main one
is stored. -/
theorem Holds.complete_iff (parts : Parts total all) (all_arrived : ∀ r ∈ arrived, r ∈ all)
    (holds : Holds total arrived merged main stored)
    (closed : ∀ r ∈ stored, main.end' ≠ r.beg ∧ main.beg ≠ r.end') :
    main.beg = 0 ∧ main.islast = true ↔ ∀ r ∈ all, r ∈ arrived := by
  have some := holds.filled
  constructor
  · rintro ⟨zero, last⟩ r mem
    rw [holds.islast, decide_eq_true_eq] at last
    obtain ⟨filled, bound, -⟩ := parts.facts mem
    refine holds.merged_arrived r (holds.mem_merged parts all_arrived mem ?_)
    have start : main.beg.toNat = 0 := congrArg BitVec.toNat zero
    omega
  · intro complete
    have inside (a : Nat) (contains : main.beg.toNat ≤ a ∧ a < main.end'.toNat) : a < total := by
      have once := holds.region.once a
      rw [if_pos contains] at once
      obtain ⟨extent, mapped, also⟩ := Extent.exists_of_times_pos (by rw [once]; exact Nat.one_pos)
      obtain ⟨r, inside, rfl⟩ := List.mem_map.mp mapped
      have bound := (parts.facts (all_arrived r (holds.merged_arrived r inside))).2.1
      exact Nat.lt_of_lt_of_le also.2 bound
    have covered (a : Nat) (within : a < total) : ∃ r ∈ all, r.extent.Contains a := by
      have once := parts.parts.once a
      rw [if_pos ⟨Nat.zero_le a, within⟩] at once
      obtain ⟨extent, mapped, also⟩ := Extent.exists_of_times_pos (by rw [once]; exact Nat.one_pos)
      obtain ⟨r, inside, rfl⟩ := List.mem_map.mp mapped
      exact ⟨r, inside, also⟩
    have within {r : Region} (mem : r ∈ merged) :
        main.beg.toNat ≤ r.beg.toNat ∧ r.end'.toNat ≤ main.end'.toNat :=
      holds.region.bounds (List.mem_map_of_mem mem)
    have apart {r : Region} (mem : r ∈ all) (outside : r ∉ merged) :
        (main.end' ≠ r.beg ∧ main.beg ≠ r.end') ∧
          ¬ (r.beg.toNat < main.end'.toNat ∧ main.beg.toNat < r.end'.toNat) := by
      have stored := (holds.kept r (complete r mem)).resolve_left outside
      exact ⟨closed r stored, fun overlap =>
        outside (holds.mem_merged parts all_arrived mem overlap)⟩
    have last : main.end'.toNat = total := by
      by_contra differ
      have before := inside (main.end'.toNat - 1) (by omega)
      obtain ⟨r, mem, least, most⟩ := covered main.end'.toNat (by omega)
      have least : r.beg.toNat ≤ main.end'.toNat := least
      have most : main.end'.toNat < r.end'.toNat := most
      have outside : r ∉ merged := fun mem => by
        have bounds := within mem
        omega
      obtain ⟨⟨next, -⟩, overlap⟩ := apart mem outside
      exact next (BitVec.eq_of_toNat_eq (by omega))
    have first : main.beg.toNat = 0 := by
      by_contra differ
      obtain ⟨r, mem, least, most⟩ := covered (main.beg.toNat - 1) (by omega)
      have least : r.beg.toNat ≤ main.beg.toNat - 1 := least
      have most : main.beg.toNat - 1 < r.end'.toNat := most
      have outside : r ∉ merged := fun mem => by
        have bounds := within mem
        omega
      obtain ⟨⟨-, next⟩, overlap⟩ := apart mem outside
      exact next (BitVec.eq_of_toNat_eq (by omega))
    exact ⟨BitVec.eq_of_toNat_eq first, holds.islast.trans (decide_eq_true last)⟩

end IPFragBuf.Region

namespace IPFragBuf

open Region

variable {total : Nat} {all arrived merged kept frags : List Region} {main : Region}

/-- What a pass leaves: fewer fragments, or as many, and then none that touches the main region. -/
structure Passed (total : Nat) (arrived kept : List Region) (main : Region) (frags : List Region)
    (r : Region × List Region × Bool) : Prop where
  holds : ∃ merged, Holds total arrived merged r.1 (kept ++ r.2.1)
  le : r.2.1.length ≤ frags.length
  lt : r.2.2 = true → r.2.1.length < frags.length
  same : r.2.2 = false → r = (main, frags, false)
  closed : r.2.2 = false → ∀ frag ∈ frags, main.end' ≠ frag.beg ∧ main.beg ≠ frag.end'

theorem Passed.deleted {frag main' : Region} {r : Region × List Region × Bool}
    (passed : Passed total arrived kept main' frags r) :
    Passed total arrived kept main (frag :: frags) (r.1, r.2.1, true) where
  holds := passed.holds
  le := Nat.le_succ_of_le passed.le
  lt := fun _ => Nat.lt_succ_of_le passed.le
  same := nofun
  closed := nofun

theorem mergePass_passed (parts : Parts total all) (all_arrived : ∀ r ∈ arrived, r ∈ all)
    (holds : Holds total arrived merged main (kept ++ frags)) :
    Passed total arrived kept main frags (mergePass main frags) := by
  induction frags generalizing main kept merged with
  | nil => exact ⟨⟨merged, holds⟩, Nat.le_refl _, nofun, fun _ => rfl, fun _ => nofun⟩
  | cons frag frags ih =>
      have front : Holds total arrived merged main (frag :: (kept ++ frags)) :=
        holds.congr fun r => List.perm_middle.mem_iff
      have mem : frag ∈ all := all_arrived frag (front.stored_arrived frag List.mem_cons_self)
      unfold mergePass
      split
      · rename_i next
        exact (ih (front.follow parts mem next)).deleted
      · rename_i apart
        split
        · rename_i next
          exact (ih (front.precede parts mem next)).deleted
        · rename_i apart'
          split
          · rename_i within
            obtain ⟨filled, -, -⟩ := parts.facts mem
            rw [BitVec.le_def, BitVec.le_def] at within
            have again := front.mem_merged parts all_arrived mem (by omega)
            exact (ih (front.drop again)).deleted
          · have later : Holds total arrived merged main ((kept ++ [frag]) ++ frags) := by
              rw [List.append_assoc]
              exact holds
            have passed := ih later
            refine ⟨?_, Nat.succ_le_succ passed.le, fun more => Nat.succ_lt_succ (passed.lt more),
              fun none => ?_, fun none other mem => ?_⟩
            · obtain ⟨merged', result⟩ := passed.holds
              rw [List.append_assoc] at result
              exact ⟨merged', result⟩
            · rw [passed.same none]
            · rcases List.mem_cons.mp mem with rfl | mem
              · exact ⟨apart, apart'⟩
              · exact passed.closed none other mem

/-- The fragments that are left do not touch the main region. -/
structure Merged (total : Nat) (arrived : List Region) (r : Region × List Region) : Prop where
  holds : ∃ merged, Holds total arrived merged r.1 r.2
  closed : ∀ frag ∈ r.2, r.1.end' ≠ frag.beg ∧ r.1.beg ≠ frag.end'

theorem mergeFragments_merged {fuel : Nat} (parts : Parts total all)
    (all_arrived : ∀ r ∈ arrived, r ∈ all) (holds : Holds total arrived merged main frags)
    (enough : frags.length < fuel) : Merged total arrived (mergeFragments main frags fuel) := by
  induction fuel generalizing main frags merged with
  | zero => exact absurd enough (Nat.not_lt_zero _)
  | succ fuel ih =>
      have passed : Passed total arrived [] main frags (mergePass main frags) :=
        mergePass_passed parts all_arrived holds
      unfold mergeFragments
      cases more : (mergePass main frags).2.2 with
      | true =>
          have fewer := Nat.lt_of_lt_of_le (passed.lt more) (Nat.le_of_lt_succ enough)
          obtain ⟨merged', result⟩ := passed.holds
          dsimp only
          rw [more, if_pos rfl]
          exact ih result fewer
      | false =>
          rw [passed.same more]
          exact ⟨⟨merged, holds⟩, passed.closed more⟩

theorem merge_merged {r : Region} (parts : Parts total all) (all_arrived : ∀ other ∈ arrived ++ [r], other ∈ all)
    (before : Merged total arrived (main, frags)) :
    Merged total (arrived ++ [r]) (merge main frags r.beg r.end' r.islast) := by
  obtain ⟨merged, held⟩ := before.holds
  have holds : Holds total (arrived ++ [r]) merged main (r :: frags) := held.arrive
  have mem : r ∈ all := all_arrived r (List.mem_append_right _ List.mem_cons_self)
  unfold merge
  split
  · rename_i next
    exact mergeFragments_merged parts all_arrived (holds.follow parts mem next) (Nat.lt_succ_self _)
  · rename_i apart
    split
    · rename_i next
      exact mergeFragments_merged parts all_arrived (holds.precede parts mem next) (Nat.lt_succ_self _)
    · rename_i apart'
      split
      · refine ⟨⟨merged, holds.congr fun other => ?_⟩, fun frag inside => ?_⟩
        · exact (List.perm_append_singleton r frags).symm.mem_iff
        · rcases List.mem_append.mp inside with inside | inside
          · exact before.closed frag inside
          · rw [List.mem_singleton.mp inside]
            exact ⟨apart, apart'⟩
      · rename_i touching
        rw [BitVec.lt_def, BitVec.lt_def] at touching
        rw [← BitVec.toNat_inj] at apart apart'
        have again := holds.mem_merged parts all_arrived mem (by omega)
        exact ⟨⟨merged, holds.drop again⟩, before.closed⟩

end IPFragBuf

namespace IP

/-- The part of `localDeliver` that reassembles fragments -/
def defragment (bufs : IPFragBuf.Buffers) (datagram : IPDatagram) (now : Nat) :
    Exec (Option IPDatagram × IPFragBuf.Buffers) :=
  if datagram.fragmentOffset ≠ 0 ∨ datagram.moreFragments = true then
    IPFragBuf.addFragment bufs datagram now
  else .ok (some datagram, bufs)

/-- What is delivered of the datagrams that arrive at times one after the other. -/
def deliver (bufs : IPFragBuf.Buffers) : (arrivals : List (Nat × IPDatagram)) →
    Exec (List IPDatagram × IPFragBuf.Buffers)
  | [] => .ok ([], bufs)
  | (now, datagram) :: arrivals => do
      let (delivered, bufs) ← defragment bufs datagram now
      let (rest, bufs) ← deliver bufs arrivals
      return (delivered.toList ++ rest, bufs)

end IP

end IPv6Suite
