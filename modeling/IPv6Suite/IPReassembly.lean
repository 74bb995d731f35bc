import IPv6Suite.IPFragBuf
import IPv6Suite.IPPieces
import Mathlib.Data.List.Induction

namespace IPv6Suite

open Lib

namespace IPFragBuf

open Region

/-- One of the fragments of the datagram with the key `k` that has a header of `headerLength` and
`total` bytes of payload; `parts` are the places of its fragments. -/
structure FragmentOf (k : Key) (headerLength total : Nat) (parts : List (Extent Nat))
    (datagram : IPDatagram) : Prop where
  sameKey : key datagram = k
  header : datagram.headerLength = headerLength
  place : datagram.extent ∈ parts
  more : datagram.moreFragments = decide (datagram.extent.hi ≠ total)

/-- A fragment of another datagram -/
structure Foreign (k : Key) (datagram : IPDatagram) : Prop where
  otherKey : key datagram ≠ k
  part : (region datagram).beg ≠ 0 ∨ (region datagram).islast = false

/-- Each of the fragments has arrived. -/
def Complete (k : Key) (parts : List (Extent Nat)) (arrivals : List (Nat × IPDatagram)) : Prop :=
  ∀ part ∈ parts, ∃ arrival ∈ arrivals, key arrival.2 = k ∧ arrival.2.extent = part

/-- The buffers after fragments have arrived at times one after the other. -/
def addFragments (bufs : Buffers) : (arrivals : List (Nat × IPDatagram)) → Exec Buffers
  | [] => .ok bufs
  | (now, datagram) :: arrivals => do
      let (_, bufs) ← addFragment bufs datagram now
      addFragments bufs arrivals

theorem addFragments_append (bufs : Buffers) (front rest : List (Nat × IPDatagram)) :
    addFragments bufs (front ++ rest) = addFragments bufs front >>= fun bufs =>
      addFragments bufs rest := by
  induction front generalizing bufs with
  | nil => rfl
  | cons arrival front ih =>
      obtain ⟨now, datagram⟩ := arrival
      change (addFragment bufs datagram now >>= fun r => addFragments r.2 (front ++ rest)) =
        (addFragment bufs datagram now >>= fun r => addFragments r.2 front) >>= _
      cases addFragment bufs datagram now with
      | error fault => rfl
      | ok r => exact ih r.2

/-- The regions of the fragments of the datagram among those that have arrived -/
def arrived (k : Key) (arrivals : List (Nat × IPDatagram)) : List Region :=
  (arrivals.filter fun arrival => key arrival.2 = k).map fun arrival => region arrival.2

def ofExtent (total : Nat) (part : Extent Nat) : Region :=
  ⟨BitVec.ofNat 16 part.lo, BitVec.ofNat 16 part.hi, decide (part.hi = total)⟩

variable {k : Key} {headerLength total : Nat} {parts : List (Extent Nat)} {bufs : Buffers}
  {datagram : IPDatagram} {arrivals front : List (Nat × IPDatagram)} {now : Nat}

theorem ofExtent_extent {part : Extent Nat} (lo : part.lo < 2 ^ 16) (hi : part.hi < 2 ^ 16) :
    (ofExtent total part).extent = part :=
  congr (congrArg Extent.mk (Nat.mod_eq_of_lt lo)) (Nat.mod_eq_of_lt hi)

theorem parts_ofExtent (partition : Extent.Partitions parts 0 total) (small : total < 2 ^ 16) :
    Parts total (parts.map (ofExtent total)) := by
  have same : parts.map (Region.extent ∘ ofExtent total) = parts := by
    conv_rhs => rw [← List.map_id parts]
    refine List.map_congr_left fun part mem => ?_
    have bound := (partition.bounds mem).2
    have filled := partition.nonempty part mem
    exact ofExtent_extent (by omega) (by omega)
  refine ⟨?_, fun r mem => ?_⟩
  · rw [List.map_map, same]
    exact partition
  · obtain ⟨part, inside, rfl⟩ := List.mem_map.mp mem
    have bound := (partition.bounds inside).2
    have hi : (ofExtent total part).end'.toNat = part.hi := Nat.mod_eq_of_lt (by omega)
    rw [hi]
    rfl

theorem FragmentOf.region (own : FragmentOf k headerLength total parts datagram) :
    region datagram = ofExtent total datagram.extent := by
  unfold IPFragBuf.region ofExtent IPDatagram.extent
  dsimp only
  rw [own.more, ← BitVec.ofNat_add, ← decide_not]
  congr 1
  exact decide_eq_decide.mpr not_not

theorem arrived_append (k : Key) (front : List (Nat × IPDatagram)) (now : Nat)
    (datagram : IPDatagram) : arrived k (front ++ [(now, datagram)]) =
      if key datagram = k then arrived k front ++ [region datagram] else arrived k front := by
  unfold arrived
  rw [List.filter_append, List.map_append]
  split
  · rename_i same
    simp only [List.filter_cons, same, decide_true, if_true]
    rfl
  · rename_i differ
    simp only [List.filter_cons, differ, decide_false, Bool.false_eq_true, if_false]
    exact List.append_nil _

/-- What may arrive -/
def Arrives (k : Key) (headerLength total : Nat) (parts : List (Extent Nat))
    (arrivals : List (Nat × IPDatagram)) : Prop :=
  ∀ arrival ∈ arrivals, FragmentOf k headerLength total parts arrival.2 ∨ Foreign k arrival.2

theorem Arrives.own (arrives : Arrives k headerLength total parts arrivals) {arrival : Nat × IPDatagram}
    (mem : arrival ∈ arrivals) (same : key arrival.2 = k) : FragmentOf k headerLength total parts arrival.2 :=
  (arrives arrival mem).resolve_right fun foreign => foreign.otherKey same

theorem Arrives.mem (arrives : Arrives k headerLength total parts arrivals) {r : Region}
    (mem : r ∈ arrived k arrivals) : r ∈ parts.map (ofExtent total) := by
  obtain ⟨arrival, inside, rfl⟩ := List.mem_map.mp mem
  obtain ⟨inside, same⟩ := List.mem_filter.mp inside
  have own := arrives.own inside (of_decide_eq_true same)
  rw [own.region]
  exact List.mem_map_of_mem own.place

theorem complete_iff (partition : Extent.Partitions parts 0 total) (small : total < 2 ^ 16)
    (arrives : Arrives k headerLength total parts arrivals) :
    Complete k parts arrivals ↔ ∀ r ∈ parts.map (ofExtent total), r ∈ arrived k arrivals := by
  have extents {part : Extent Nat} (mem : part ∈ parts) : (ofExtent total part).extent = part := by
    have bound := (partition.bounds mem).2
    have filled := partition.nonempty part mem
    exact ofExtent_extent (by omega) (by omega)
  constructor
  · intro complete r mem
    obtain ⟨part, inside, rfl⟩ := List.mem_map.mp mem
    obtain ⟨arrival, came, same, rfl⟩ := complete part inside
    rw [← (arrives.own came same).region]
    exact List.mem_map_of_mem (List.mem_filter.mpr ⟨came, decide_eq_true same⟩)
  · intro all part mem
    obtain ⟨arrival, inside, equal⟩ := List.mem_map.mp (all _ (List.mem_map_of_mem mem))
    obtain ⟨came, same⟩ := List.mem_filter.mp inside
    have own := arrives.own came (of_decide_eq_true same)
    refine ⟨arrival, came, of_decide_eq_true same, ?_⟩
    rw [← extents own.place, ← own.region, equal, extents mem]

theorem several_unfinished (partition : Extent.Partitions parts 0 total)
    (several : 2 ≤ parts.length) {part : Extent Nat} (mem : part ∈ parts) : part.lo ≠ 0 ∨ part.hi ≠ total := by
  by_contra! whole
  obtain ⟨front, rest, rfl⟩ := List.append_of_mem mem
  have more : front ++ rest ≠ [] := by
    intro none
    have count := congrArg List.length none
    simp only [List.length_append, List.length_cons, List.length_nil] at several count
    omega
  obtain ⟨other, inside⟩ := List.exists_mem_of_ne_nil _ more
  have partition' := partition.perm List.perm_middle
  have filled := partition'.nonempty other (List.mem_cons_of_mem part inside)
  have bound := (partition'.bounds (List.mem_cons_of_mem part inside)).2
  have twice := partition'.le_one other.lo
  rw [Extent.times_cons, if_pos ⟨by omega, by omega⟩] at twice
  have again := Extent.times_pos inside (show other.Contains other.lo from ⟨Nat.le_refl _, filled⟩)
  omega

/-- The buffer for the datagram after fragments have arrived of which some are missing. -/
def Buffered (k : Key) (headerLength total : Nat) (came : List Region) :
    Option ReassemblyBuffer → Prop
  | none => came = []
  | some buf => Merged total came (buf.main, buf.fragments) ∧ key buf.datagram = k ∧
      buf.datagram.headerLength = headerLength

/-- What `addFragment` makes of a fragment, if some were missing before. -/
structure Added (k : Key) (headerLength total : Nat) (parts : List (Extent Nat))
    (arrivals : List (Nat × IPDatagram)) (r : Option IPDatagram × Buffers) : Prop where
  missing : ¬ Complete k parts arrivals →
    r.1 = none ∧ Buffered k headerLength total (arrived k arrivals) r.2[k]?
  complete : Complete k parts arrivals →
    (∃ whole, r.1 = some whole ∧ key whole = k ∧ whole.length = 8 * (headerLength + total)) ∧
      r.2[k]? = none

theorem addFragment_own (partition : Extent.Partitions parts 0 total) (small : total < 2 ^ 16)
    (several : 2 ≤ parts.length) (arrives : Arrives k headerLength total parts (front ++ [(now, datagram)]))
    (own : FragmentOf k headerLength total parts datagram)
    (buffered : Buffered k headerLength total (arrived k front) bufs[k]?) :
    ∃ r, addFragment bufs datagram now = .ok r ∧
      Added k headerLength total parts (front ++ [(now, datagram)]) r := by
  have regions := parts_ofExtent partition small
  have all : ∀ r ∈ arrived k (front ++ [(now, datagram)]), r ∈ parts.map (ofExtent total) :=
    fun r mem => arrives.mem mem
  have iff := complete_iff partition small arrives
  rw [arrived_append, if_pos own.sameKey] at all iff
  have mem : region datagram ∈ parts.map (ofExtent total) :=
    all _ (List.mem_append_right _ List.mem_cons_self)
  obtain ⟨filled, bound, last⟩ := regions.facts mem
  unfold addFragment
  rw [own.sameKey]
  cases stored : bufs[k]? with
  | none =>
      rw [stored] at buffered
      have empty : arrived k front = [] := buffered
      rw [empty, List.nil_append] at all iff
      have holds : Holds total [region datagram] [region datagram] (region datagram) [] :=
        ⟨fun _ inside => inside, nofun, fun _ inside => Or.inl inside, .singleton filled, filled, last⟩
      have merged : Merged total [region datagram] (region datagram, []) :=
        ⟨⟨_, holds⟩, fun _ => nofun⟩
      have unfinished : (region datagram).beg ≠ 0 ∨ ¬ (region datagram).islast = true := by
        have bound := (partition.bounds own.place).2
        have filled := partition.nonempty _ own.place
        have lo : (region datagram).beg.toNat = datagram.extent.lo := by
          rw [own.region]
          exact Nat.mod_eq_of_lt (by omega)
        refine (several_unfinished partition several own.place).imp ?_ ?_
        · exact fun later zero => later (lo.symm.trans (congrArg BitVec.toNat zero))
        · rw [own.region]
          exact fun more final => more (of_decide_eq_true final)
      have some_missing : ¬ Complete k parts (front ++ [(now, datagram)]) := by
        intro complete
        obtain ⟨zero, final⟩ := (holds.complete_iff regions all fun _ => nofun).mpr (iff.mp complete)
        exact unfinished.elim (fun later => later zero) (fun more => more final)
      dsimp only
      rw [assert_pos unfinished]
      refine ⟨_, rfl, fun _ => ⟨rfl, ?_⟩, fun complete => absurd complete some_missing⟩
      rw [StdMap.getElem?_insert_self, arrived_append, if_pos own.sameKey, empty]
      exact ⟨merged, own.sameKey, own.header⟩
  | some buf =>
      rw [stored] at buffered
      obtain ⟨merged, header⟩ := buffered
      have merged' := merge_merged regions all merged
      obtain ⟨together, holds⟩ := merged'.holds
      have done := (holds.complete_iff regions all merged'.closed).trans iff.symm
      have kept : key (if datagram.encapsulatedMsg.isSome then datagram else buf.datagram) = k ∧
          (if datagram.encapsulatedMsg.isSome then datagram else buf.datagram).headerLength =
            headerLength := by
        split
        · exact ⟨own.sameKey, own.header⟩
        · exact header
      dsimp only
      generalize merge buf.main buf.fragments (region datagram).beg (region datagram).end'
        (region datagram).islast = m at merged' holds done ⊢
      generalize (if datagram.encapsulatedMsg.isSome then datagram else buf.datagram) = d at kept ⊢
      by_cases complete : Complete k parts (front ++ [(now, datagram)])
      · have final := done.mpr complete
        rw [if_pos final]
        refine ⟨_, rfl, fun missing => absurd complete missing, fun _ => ⟨⟨_, rfl, kept.1, ?_⟩, ?_⟩⟩
        · have islast := holds.islast
          rw [final.2, eq_comm, decide_eq_true_eq] at islast
          rw [← kept.2, ← islast]
          rfl
        · exact StdMap.getElem?_erase_self
      · rw [if_neg (mt done.mp complete)]
        refine ⟨_, rfl, fun _ => ⟨rfl, ?_⟩, fun done => absurd done complete⟩
        rw [StdMap.getElem?_insert_self, arrived_append, if_pos own.sameKey]
        exact ⟨merged', kept⟩

theorem addFragment_foreign (foreign : Foreign k datagram) :
    ∃ r, addFragment bufs datagram now = .ok r ∧ r.2[k]? = bufs[k]? := by
  have part : (region datagram).beg ≠ 0 ∨ ¬ (region datagram).islast = true :=
    foreign.part.imp_right fun more last => Bool.noConfusion (more.symm.trans last)
  unfold addFragment
  dsimp only
  cases bufs[key datagram]? with
  | none =>
      dsimp only
      rw [assert_pos part]
      exact ⟨_, rfl, StdMap.getElem?_insert_ne foreign.otherKey⟩
  | some buf =>
      dsimp only
      split
      · exact ⟨_, rfl, StdMap.getElem?_erase_ne foreign.otherKey⟩
      · exact ⟨_, rfl, StdMap.getElem?_insert_ne foreign.otherKey⟩

theorem Complete.append (complete : Complete k parts front) :
    Complete k parts (front ++ [(now, datagram)]) := fun part mem =>
  (complete part mem).imp fun _ came => ⟨List.mem_append_left _ came.1, came.2⟩

theorem addFragments_buffered (partition : Extent.Partitions parts 0 total) (small : total < 2 ^ 16)
    (several : 2 ≤ parts.length) (fresh : bufs[k]? = none)
    (arrives : Arrives k headerLength total parts arrivals) (missing : ¬ Complete k parts arrivals) :
    ∃ bufs', addFragments bufs arrivals = .ok bufs' ∧
      Buffered k headerLength total (arrived k arrivals) bufs'[k]? := by
  induction arrivals using List.reverseRecOn with
  | nil =>
      refine ⟨bufs, rfl, ?_⟩
      rw [fresh]
      rfl
  | append_singleton front arrival ih =>
      obtain ⟨now, datagram⟩ := arrival
      have before : Arrives k headerLength total parts front := fun arrival mem =>
        arrives arrival (List.mem_append_left _ mem)
      obtain ⟨bufs', ran, buffered⟩ := ih before fun complete => missing complete.append
      rw [addFragments_append, ran]
      change ∃ bufs'', (addFragment bufs' datagram now >>= fun r => .ok r.2) = .ok bufs'' ∧ _
      rcases arrives _ (List.mem_append_right _ List.mem_cons_self) with own | foreign
      · obtain ⟨r, added, result⟩ := addFragment_own partition small several arrives own buffered
        rw [added]
        exact ⟨r.2, rfl, (result.missing missing).2⟩
      · obtain ⟨r, added, same⟩ := @addFragment_foreign _ bufs' _ now foreign
        rw [added]
        refine ⟨r.2, rfl, ?_⟩
        rw [same, arrived_append, if_neg foreign.otherKey]
        exact buffered

/-- Of the fragments of a datagram, in any order, some more than once and with fragments of others
between them, exactly the one that makes them complete returns the datagram. -/
theorem reassembles (partition : Extent.Partitions parts 0 total) (small : total ≤ 65535)
    (several : 2 ≤ parts.length) (fresh : bufs[k]? = none)
    (arrives : Arrives k headerLength total parts (front ++ [(now, datagram)]))
    (own : FragmentOf k headerLength total parts datagram) (missing : ¬ Complete k parts front) :
    ∃ bufs' r, addFragments bufs front = .ok bufs' ∧ addFragment bufs' datagram now = .ok r ∧
      (¬ Complete k parts (front ++ [(now, datagram)]) → r.1 = none) ∧
      (Complete k parts (front ++ [(now, datagram)]) → ∃ whole, r.1 = some whole ∧
        key whole = k ∧ whole.length = 8 * (headerLength + total)) := by
  have before : Arrives k headerLength total parts front := fun arrival mem =>
    arrives arrival (List.mem_append_left _ mem)
  obtain ⟨bufs', ran, buffered⟩ :=
    addFragments_buffered partition (by omega) several fresh before missing
  obtain ⟨r, added, result⟩ := addFragment_own partition (by omega) several arrives own buffered
  exact ⟨bufs', r, ran, added, fun missing => (result.missing missing).1,
    fun complete => (result.complete complete).1⟩

def sample (identification : BitVec 32) (lo hi : Nat) (moreFragments : Bool) : IPDatagram where
  length := 8 * (20 + (hi - lo))
  headerLength := 20
  srcAddress := 1
  destAddress := 2
  timeToLive := 64
  identification
  moreFragments
  dontFragment := false
  fragmentOffset := lo
  encapsulatedMsg := none

/-- The second of two fragments comes twice, before the first one. -/
theorem reassembles_example : ∃ bufs r,
    addFragments ∅ [(0, sample 7 100 200 false), (1, sample 7 100 200 false)] = .ok bufs ∧
      addFragment bufs (sample 7 0 100 true) 2 = .ok r ∧ ∃ whole, r.1 = some whole ∧
        whole.length = 8 * 220 := by
  have partition : Extent.Partitions [⟨0, 100⟩, ⟨100, 200⟩] 0 200 :=
    .append (.singleton (by decide)) (.singleton (by decide)) (by decide) (by decide)
  have last : FragmentOf ⟨7, 1, 2⟩ 20 200 [⟨0, 100⟩, ⟨100, 200⟩] (sample 7 100 200 false) :=
    ⟨rfl, rfl, .tail _ (.head _), rfl⟩
  have first : FragmentOf ⟨7, 1, 2⟩ 20 200 [⟨0, 100⟩, ⟨100, 200⟩] (sample 7 0 100 true) :=
    ⟨rfl, rfl, .head _, rfl⟩
  have arrives : Arrives ⟨7, 1, 2⟩ 20 200 [⟨0, 100⟩, ⟨100, 200⟩]
      ([(0, sample 7 100 200 false), (1, sample 7 100 200 false)] ++ [(2, sample 7 0 100 true)]) := by
    intro arrival mem
    simp only [List.cons_append, List.nil_append, List.mem_cons, List.not_mem_nil, or_false] at mem
    rcases mem with rfl | rfl | rfl
    · exact Or.inl last
    · exact Or.inl last
    · exact Or.inl first
  have missing : ¬ Complete ⟨7, 1, 2⟩ [⟨0, 100⟩, ⟨100, 200⟩]
      [(0, sample 7 100 200 false), (1, sample 7 100 200 false)] := by
    intro complete
    obtain ⟨arrival, mem, -, place⟩ := complete ⟨0, 100⟩ (.head _)
    simp only [List.mem_cons, List.not_mem_nil, or_false] at mem
    rcases mem with rfl | rfl
    · cases congrArg Extent.lo place
    · cases congrArg Extent.lo place
  have empty : (∅ : Buffers)[(⟨7, 1, 2⟩ : Key)]? = none := Std.TreeMap.getElem?_emptyc
  obtain ⟨bufs, r, ran, added, -, complete⟩ := reassembles partition (by decide) (by decide) empty
    arrives first missing
  refine ⟨bufs, r, ran, added, (complete ?_).imp fun whole result => ⟨result.1, result.2.2⟩⟩
  intro part mem
  simp only [List.mem_cons, List.not_mem_nil, or_false] at mem
  rcases mem with rfl | rfl
  · exact ⟨(2, sample 7 0 100 true), .tail _ (.tail _ (.head _)), rfl, rfl⟩
  · exact ⟨(0, sample 7 100 200 false), .head _, rfl, rfl⟩

/-- The key has 16 bits for the identification. A fragment of a datagram with another one completes
the datagram, and the one that is missing does not. -/
theorem identification_wraps :
    (sample 65536 100 200 false).identification ≠ (sample 0 100 200 false).identification ∧
      (do
        let bufs ← addFragments ∅ [(0, sample 0 0 100 true)]
        let (other, bufs) ← addFragment bufs (sample 65536 100 200 false) 1
        let (last, _) ← addFragment bufs (sample 0 100 200 false) 2
        return (other.map IPDatagram.length, last)) = .ok (some (8 * 220), none) := by
  decide

end IPFragBuf

namespace IP

open IPFragBuf

/-- The datagrams that arrive cover the payload without gap or overlap. -/
def Covered (mtus : List Nat) (datagram : IPDatagram) : Prop :=
  ∀ a, Extent.times ((travel mtus [datagram]).map IPDatagram.extent) a =
    if a < datagram.payload then 1 else 0

/-- In whatever order they arrive, one datagram of the same length is delivered. -/
def Reassembles (bufs : Buffers) (mtus : List Nat) (datagram : IPDatagram) : Prop :=
  ∀ arrivals : List (Nat × IPDatagram), (arrivals.map Prod.snd).Perm (travel mtus [datagram]) →
    ∃ whole bufs', deliver bufs arrivals = .ok ([whole], bufs') ∧
      whole.totalLength = datagram.totalLength

/-- The hop counter is enough for the path, and the datagram fits on each link, or it may be
divided, its offsets have 16 bits, and only its first fragments are divided again. -/
def Fragmentable (mtus : List Nat) (datagram : IPDatagram) : Prop :=
  mtus.length ≤ datagram.timeToLive.toNat ∧ ((∀ mtu ∈ mtus, datagram.totalLength ≤ mtu) ∨
    datagram.dontFragment = false ∧ datagram.payload < 2 ^ 16 ∧
      FirstDivides datagram.payload 0 (mtus.map (· - datagram.headerLength)))

variable {d datagram : IPDatagram} {bufs bufs' : Buffers} {arrivals : List (Nat × IPDatagram)}
  {mtus : List Nat}

theorem deliver_append (bufs : Buffers) (front rest : List (Nat × IPDatagram)) :
    deliver bufs (front ++ rest) = deliver bufs front >>= fun r => deliver r.2 rest >>= fun others =>
      .ok (r.1 ++ others.1, others.2) := by
  induction front generalizing bufs with
  | nil =>
      change deliver bufs rest = deliver bufs rest >>= fun others => .ok ([] ++ others.1, others.2)
      cases deliver bufs rest with
      | error fault => rfl
      | ok others => rfl
  | cons arrival front ih =>
      obtain ⟨now, datagram⟩ := arrival
      have cons (rest : List (Nat × IPDatagram)) : deliver bufs ((now, datagram) :: rest) =
          defragment bufs datagram now >>= fun r => deliver r.2 rest >>= fun others =>
            .ok (r.1.toList ++ others.1, others.2) := rfl
      rw [List.cons_append, cons, cons]
      cases defragment bufs datagram now with
      | error fault => rfl
      | ok r =>
          rw [ok_bind, ok_bind, ih]
          cases deliver r.2 front with
          | error fault => rfl
          | ok front =>
              rw [ok_bind, ok_bind, ok_bind]
              cases deliver front.2 rest with
              | error fault => rfl
              | ok others =>
                  rw [ok_bind, ok_bind, ok_bind, List.append_assoc]

theorem deliver_part {now : Nat} (part : datagram.fragmentOffset ≠ 0 ∨ datagram.moreFragments = true) :
    deliver bufs [(now, datagram)] = (do
      let (delivered, bufs) ← addFragment bufs datagram now
      return (delivered.toList, bufs)) := by
  unfold deliver defragment
  rw [if_pos part]
  cases addFragment bufs datagram now with
  | error fault => rfl
  | ok r =>
      change Except.ok _ = Except.ok _
      rw [List.append_nil]

section

variable {headerLength total : Nat} {k : Key} {parts : List (Extent Nat)}

theorem part_of_own (partition : Extent.Partitions parts 0 total) (several : 2 ≤ parts.length)
    (own : FragmentOf k headerLength total parts datagram) :
    datagram.fragmentOffset ≠ 0 ∨ datagram.moreFragments = true := by
  refine (several_unfinished partition several own.place).imp id fun more => ?_
  rw [own.more]
  exact decide_eq_true more

theorem deliver_missing (partition : Extent.Partitions parts 0 total) (small : total < 2 ^ 16)
    (several : 2 ≤ parts.length) (fresh : bufs[k]? = none)
    (own : ∀ arrival ∈ arrivals, FragmentOf k headerLength total parts arrival.2)
    (missing : ¬ Complete k parts arrivals) : ∃ bufs', deliver bufs arrivals = .ok ([], bufs') ∧
      Buffered k headerLength total (arrived k arrivals) bufs'[k]? := by
  induction arrivals using List.reverseRecOn with
  | nil =>
      refine ⟨bufs, rfl, ?_⟩
      rw [fresh]
      rfl
  | append_singleton front arrival ih =>
      obtain ⟨now, datagram⟩ := arrival
      obtain ⟨bufs', ran, buffered⟩ := ih (fun arrival mem => own arrival (List.mem_append_left _ mem))
        fun complete => missing complete.append
      have last : FragmentOf k headerLength total parts datagram :=
        own _ (List.mem_append_right front (List.mem_singleton_self _))
      obtain ⟨r, added, result⟩ := addFragment_own partition small several
        (fun arrival mem => Or.inl (own arrival mem)) last buffered
      obtain ⟨none, buffered'⟩ := result.missing missing
      refine ⟨r.2, ?_, buffered'⟩
      rw [deliver_append, ran, ok_bind, deliver_part (part_of_own partition several last), added]
      change Except.ok ([] ++ r.1.toList, r.2) = _
      rw [none]
      rfl

theorem deliver_complete (partition : Extent.Partitions parts 0 total) (small : total < 2 ^ 16)
    (several : 2 ≤ parts.length) (fresh : bufs[k]? = none)
    (own : ∀ arrival ∈ arrivals, FragmentOf k headerLength total parts arrival.2)
    (once : (arrivals.map fun arrival => arrival.2.extent).Perm parts) :
    ∃ whole bufs', deliver bufs arrivals = .ok ([whole], bufs') ∧ whole.totalLength = headerLength + total := by
  induction arrivals using List.reverseRecOn with
  | nil =>
      have none := once.length_eq
      rw [List.map_nil, List.length_nil] at none
      omega
  | append_singleton front arrival _ =>
      obtain ⟨now, datagram⟩ := arrival
      have before : ∀ arrival ∈ front, FragmentOf k headerLength total parts arrival.2 :=
        fun arrival mem => own arrival (List.mem_append_left _ mem)
      have last : FragmentOf k headerLength total parts datagram :=
        own _ (List.mem_append_right front (List.mem_singleton_self _))
      have missing : ¬ Complete k parts front := by
        intro complete
        obtain ⟨arrival, mem, -, same⟩ := complete _ last.place
        have twice := (partition.perm once.symm).le_one datagram.extent.lo
        have filled := partition.nonempty _ last.place
        have here : datagram.extent.Contains datagram.extent.lo := ⟨Nat.le_refl _, filled⟩
        have also : datagram.extent ∈ front.map fun arrival => arrival.2.extent := by
          rw [← same]
          exact List.mem_map_of_mem mem
        have again := Extent.times_pos also here
        rw [List.map_append, Extent.times_append, List.map_singleton, Extent.times_cons,
          if_pos here] at twice
        omega
      have complete : Complete k parts (front ++ [(now, datagram)]) := by
        intro part mem
        obtain ⟨arrival, came, same⟩ := List.mem_map.mp (once.mem_iff.mpr mem)
        exact ⟨arrival, came, (own arrival came).sameKey, same⟩
      obtain ⟨bufs', ran, buffered⟩ := deliver_missing partition small several fresh before missing
      obtain ⟨r, added, result⟩ := addFragment_own partition small several
        (fun arrival mem => Or.inl (own arrival mem)) last buffered
      obtain ⟨⟨whole, returned, -, length⟩, -⟩ := result.complete complete
      refine ⟨whole, r.2, ?_, ?_⟩
      · rw [deliver_append, ran, ok_bind, deliver_part (part_of_own partition several last), added]
        change Except.ok ([] ++ r.1.toList, r.2) = _
        rw [returned]
        rfl
      · unfold IPDatagram.totalLength
        rw [length, Nat.mul_div_cancel_left _ (by decide)]

theorem deliver_lt (same : ∀ arrival ∈ arrivals, key arrival.2 = k ∧ arrival.2.headerLength = headerLength)
    (part : ∀ arrival ∈ arrivals, arrival.2.fragmentOffset ≠ 0 ∨ arrival.2.moreFragments = true)
    (stored : ∀ buf, bufs[k]? = some buf → buf.datagram.headerLength = headerLength)
    {delivered : List IPDatagram} (ran : deliver bufs arrivals = .ok (delivered, bufs')) :
    ∀ whole ∈ delivered, whole.totalLength < headerLength + 2 ^ 16 := by
  induction arrivals generalizing bufs delivered with
  | nil =>
      cases ran
      exact fun _ => nofun
  | cons arrival arrivals ih =>
      obtain ⟨now, datagram⟩ := arrival
      obtain ⟨sameKey, header⟩ := same _ List.mem_cons_self
      have added : ∀ r, addFragment bufs datagram now = .ok r →
          (∀ whole ∈ r.1, whole.totalLength < headerLength + 2 ^ 16) ∧
            ∀ buf, r.2[k]? = some buf → buf.datagram.headerLength = headerLength := by
        intro r added
        unfold addFragment at added
        rw [sameKey] at added
        cases found : bufs[k]? with
        | none =>
            rw [found] at added
            dsimp only at added
            cases asserted : Exec.assert ((region datagram).beg ≠ 0 ∨ ¬ (region datagram).islast) with
            | error fault =>
                rw [asserted] at added
                cases added
            | ok _ =>
                rw [asserted] at added
                cases added
                refine ⟨fun _ => nofun, fun buf got => ?_⟩
                rw [StdMap.getElem?_insert_self] at got
                cases got
                exact header
        | some buf =>
            rw [found] at added
            dsimp only at added
            have kept : (if datagram.encapsulatedMsg.isSome then datagram else buf.datagram).headerLength
                = headerLength := by
              split
              · exact header
              · exact stored buf found
            split at added
            · cases added
              refine ⟨fun whole returned => ?_, fun other got => ?_⟩
              · cases returned
                rw [IPDatagram.setLength_totalLength, kept]
                exact Nat.add_lt_add_left (BitVec.isLt _) _
              · rw [StdMap.getElem?_erase_self] at got
                cases got
            · cases added
              refine ⟨fun _ => nofun, fun other got => ?_⟩
              rw [StdMap.getElem?_insert_self] at got
              cases got
              exact kept
      unfold deliver defragment at ran
      rw [if_pos (part _ List.mem_cons_self)] at ran
      cases first : addFragment bufs datagram now with
      | error fault =>
          rw [first] at ran
          cases ran
      | ok r =>
          rw [first] at ran
          simp only [ok_bind] at ran
          obtain ⟨small, stored'⟩ := added r first
          cases rest : deliver r.2 arrivals with
          | error fault =>
              rw [rest] at ran
              cases ran
          | ok others =>
              rw [rest] at ran
              cases ran
              intro whole mem
              rcases List.mem_append.mp mem with mem | mem
              · exact small whole (Option.mem_toList.mp mem)
              · exact ih (fun arrival mem => same arrival (List.mem_cons_of_mem _ mem))
                  (fun arrival mem => part arrival (List.mem_cons_of_mem _ mem)) stored' rest whole mem

end

section

variable {ttl : Int} {first others : Nat} {pieces : List IPDatagram}

theorem Pieces.fragmentOf (shape : Pieces d ttl first others pieces) {piece : IPDatagram}
    (mem : piece ∈ pieces) :
    FragmentOf (key d) d.headerLength d.payload (pieces.map IPDatagram.extent) piece where
  sameKey := (congrArg key (shape.same piece mem) :)
  header := shape.headerLength mem
  place := List.mem_map_of_mem mem
  more := shape.more piece mem

theorem Pieces.several (shape : Pieces d ttl first others pieces) (divided : first < d.payload) :
    2 ≤ pieces.length := by
  obtain ⟨piece, mem, start, payload⟩ := shape.exists_start
  by_contra few
  have single : pieces = [piece] := by
    have one : pieces.length = 1 := by
      have some := List.length_pos_of_mem mem
      omega
    obtain ⟨other, only⟩ := List.length_eq_one_iff.mp one
    rw [only] at mem ⊢
    rw [List.mem_singleton.mp mem]
  have once := shape.parts.once first
  rw [single, if_pos ⟨Nat.zero_le _, divided⟩] at once
  obtain ⟨extent, inside, -, less⟩ := Extent.exists_of_times_pos (by rw [once]; exact Nat.one_pos)
  rw [List.map_singleton, List.mem_singleton] at inside
  rw [inside] at less
  have less : first < piece.fragmentOffset + piece.payload := less
  omega

end

/-- A datagram that is fragmented on its path is reassembled exactly when only its first fragments
are fragmented again. -/
theorem fragments_reassemble (fresh : d.fragmentOffset = 0) (whole : d.moreFragments = false)
    (header : d.headerLength ≤ d.totalLength) (room : ∀ mtu ∈ mtus, d.headerLength < mtu)
    (unused : bufs[key d]? = none) :
    (∀ (mtu : Nat) (datagram sent : IPDatagram), datagram.headerLength < mtu →
      .queueOut sent ∈ fragmentAndSend mtu datagram → sent.totalLength ≤ mtu) ∧
    ((Covered mtus d ∧ Reassembles bufs mtus d) ↔ Fragmentable mtus d) := by
  refine ⟨fun mtu datagram sent room mem => fragmentAndSend_le room mem, ?_, ?_⟩
  · rintro ⟨covered, reassembles⟩
    have arrives : travel mtus [d] ≠ [] := by
      intro none
      obtain ⟨whole, bufs', delivered, -⟩ := reassembles [] (by rw [none]; exact .nil)
      cases delivered
    have alive : mtus.length ≤ d.timeToLive.toNat := by
      by_contra expired
      refine arrives (@travel_expired _ _ d.timeToLive (fun datagram mem => ?_) (by omega))
      rw [List.mem_singleton.mp mem]
    refine ⟨alive, ?_⟩
    by_cases fits : ∀ mtu ∈ mtus, d.totalLength ≤ mtu
    · exact Or.inl fits
    · right
      have allowed : d.dontFragment = false := by
        rw [← Bool.not_eq_true]
        exact fun forbidden => arrives (travel_forbidden forbidden room fits)
      push Not at fits
      obtain ⟨mtu, inside, exceeds⟩ := fits
      have some := List.length_pos_of_mem inside
      have larger := payload_gt exceeds (room mtu inside)
      have start := Pieces.start fresh whole (by omega)
      have alive' : (mtus.length : Int) ≤ d.timeToLive := by omega
      have divides := start.firstDivides alive' allowed room (by
        rw [covered 0]
        split <;> decide)
      refine ⟨allowed, ?_, divides⟩
      obtain ⟨first, others, shape, -, le⟩ := start.travel alive' allowed room divides
      have divided : first < d.payload := Nat.lt_of_le_of_lt (le mtu inside) larger
      have several := shape.several divided
      rw [← List.length_map (f := IPDatagram.extent)] at several
      obtain ⟨result, bufs', delivered, length⟩ := reassembles
        ((travel mtus [d]).map fun datagram => (0, datagram)) (by
          rw [List.map_map]
          exact .of_eq (List.map_id _))
      have of_pieces {p : IPDatagram → Prop} (holds : ∀ piece ∈ travel mtus [d], p piece) :
          ∀ arrival ∈ (travel mtus [d]).map fun datagram => ((0 : Nat), datagram), p arrival.2 := by
        intro arrival mem
        obtain ⟨piece, inside, rfl⟩ := List.mem_map.mp mem
        exact holds piece inside
      have less := @deliver_lt _ _ _ d.headerLength (key d)
        (of_pieces (p := fun piece => key piece = key d ∧ piece.headerLength = d.headerLength)
          fun piece mem => ⟨(shape.fragmentOf mem).sameKey, (shape.fragmentOf mem).header⟩)
        (of_pieces (p := fun piece => piece.fragmentOffset ≠ 0 ∨ piece.moreFragments = true)
          fun piece mem => part_of_own shape.parts several (shape.fragmentOf mem))
        (fun buf stored => by rw [unused] at stored; cases stored) _ delivered result
        List.mem_cons_self
      unfold IPDatagram.payload
      omega
  · rintro ⟨alive, possible⟩
    by_cases fits : ∀ mtu ∈ mtus, d.totalLength ≤ mtu
    · have arrived := travel_fits alive fits
      refine ⟨fun a => ?_, fun arrivals order => ?_⟩
      · rw [arrived, List.map_singleton, Extent.times_cons]
        have extent : IPDatagram.extent { d with timeToLive := d.timeToLive - mtus.length } =
            ⟨0, d.payload⟩ := by
          change Extent.mk d.fragmentOffset (d.fragmentOffset + d.payload) = _
          rw [fresh, Nat.zero_add]
        rw [extent]
        unfold Extent.Contains
        simp only [Nat.zero_le, true_and, Extent.times_nil, Nat.zero_add]
      · rw [arrived, List.perm_singleton, List.map_eq_singleton_iff] at order
        obtain ⟨⟨now, datagram⟩, rfl, rfl⟩ := order
        refine ⟨{ d with timeToLive := d.timeToLive - mtus.length }, bufs, ?_, rfl⟩
        unfold deliver defragment
        rw [if_neg (by simp only [fresh, whole]; decide)]
        rfl
    · obtain ⟨allowed, small, divides⟩ := possible.resolve_left fits
      push Not at fits
      obtain ⟨mtu, inside, exceeds⟩ := fits
      have some := List.length_pos_of_mem inside
      have larger := payload_gt exceeds (room mtu inside)
      obtain ⟨first, others, shape, -, le⟩ := (Pieces.start fresh whole (by omega)).travel
        (by omega) allowed room divides
      have several := shape.several (Nat.lt_of_le_of_lt (le mtu inside) larger)
      rw [← List.length_map (f := IPDatagram.extent)] at several
      refine ⟨fun a => ?_, fun arrivals order => ?_⟩
      · rw [shape.parts.once]
        simp only [Nat.zero_le, true_and]
      · have extents := order.map IPDatagram.extent
        rw [List.map_map] at extents
        obtain ⟨result, bufs', delivered, length⟩ := deliver_complete shape.parts small several unused
          (fun arrival mem => shape.fragmentOf (order.mem_iff.mp (List.mem_map_of_mem mem))) extents
        refine ⟨result, bufs', delivered, length.trans ?_⟩
        unfold IPDatagram.payload
        omega

/-- On the second link only the first fragment is divided again. -/
theorem fragments_reassemble_example :
    Covered [120, 100] (sample 7 0 150 false) ∧ Reassembles ∅ [120, 100] (sample 7 0 150 false) := by
  have room : ∀ mtu ∈ [120, 100], (sample 7 0 150 false).headerLength < mtu := by decide
  refine (fragments_reassemble rfl rfl (by decide) room Std.TreeMap.getElem?_emptyc).2.mpr
    ⟨by decide, Or.inr ⟨rfl, by decide, ?_⟩⟩
  change FirstDivides 150 0 [100, 80]
  simp only [FirstDivides]
  decide

/-- The offsets of the second fragment are lost when it is divided again, and nothing is
delivered. -/
theorem second_fragment_divided :
    (travel [120, 70] [sample 7 0 200 false]).map IPDatagram.extent =
        [⟨0, 50⟩, ⟨50, 100⟩, ⟨0, 50⟩, ⟨50, 100⟩] ∧
      (deliver ∅ ((travel [120, 70] [sample 7 0 200 false]).map fun datagram => (0, datagram))).map
        Prod.fst = .ok [] := by
  decide +kernel

end IP

end IPv6Suite
