import IPv6Suite.Lib.Membership
import IPv6Suite.ListenerSlots

namespace IPv6Suite

open Lib RecordType

structure ListenerReport where
  srcAddr : Ipv6Addr
  msg : MLDv2Report
  ns : BitVec 16
  records : List ReportedRecord
  slack : Bytes
  number : msg.noMAR.toNat = records.length
  opt : msg.opt = recordBytes records ++ slack
  formed : ∀ r ∈ records, r.header.ns.toInt = r.sources.length ∧
    (r.header.type = isIn ∨ r.header.type = allow ∨ r.header.type = block)

/-- The hosts that listen to the sources of a group -/
abbrev Listening := Membership Ipv6Addr Ipv6Addr Ipv6Addr

namespace Listening

def record (host : Ipv6Addr) (m : Listening) (r : ReportedRecord) : Listening :=
  if r.header.type = block then m.block host r.header.ma r.sources else m.allow host r.header.ma r.sources

/-- A record from a host with an address leaves no source with more listeners than are kept, and the
first record of a group is IS_IN. -/
structure Admits (m : Listening) (host : Ipv6Addr) (r : ReportedRecord) : Prop where
  specified : host ≠ .unspecified
  opened : r.header.ma ∈ m.groups ∨ r.header.type = isIn
  hosts : r.header.type ≠ block →
    ∀ sa ∈ r.sources, (insert host (m.hosts r.header.ma sa)).card ≤ listenerRecord
  few : (m.sources r.header.ma ∪ r.sources.toFinset).card < 2 ^ 16

instance (m : Listening) (host : Ipv6Addr) (r : ReportedRecord) : Decidable (m.Admits host r) :=
  decidable_of_iff (host ≠ .unspecified ∧ (r.header.ma ∈ m.groups ∨ r.header.type = isIn) ∧
      (r.header.type ≠ block →
        ∀ sa ∈ r.sources, (insert host (m.hosts r.header.ma sa)).card ≤ listenerRecord) ∧
      (m.sources r.header.ma ∪ r.sources.toFinset).card < 2 ^ 16)
    ⟨fun ⟨specified, opened, hosts, few⟩ => ⟨specified, opened, hosts, few⟩,
      fun ⟨specified, opened, hosts, few⟩ => ⟨specified, opened, hosts, few⟩⟩

def AdmitsAll (host : Ipv6Addr) : Listening → List ReportedRecord → Prop
  | _, [] => True
  | m, r :: rest => m.Admits host r ∧ AdmitsAll host (m.record host r) rest

instance admitsAllDecidable (host : Ipv6Addr) : (m : Listening) → (rs : List ReportedRecord) →
    Decidable (AdmitsAll host m rs)
  | _, [] => isTrue trivial
  | m, r :: rest =>
      have := admitsAllDecidable host (m.record host r) rest
      inferInstanceAs (Decidable (m.Admits host r ∧ AdmitsAll host (m.record host r) rest))

end Listening

/-- A router after a report, beside what the hosts listen to -/
def MLDRouter.report (s : MLDRouter × Listening) (e : ListenerReport) : Exec (MLDRouter × Listening) := do
  let rt ← s.1.parseMsg e.msg e.srcAddr e.ns
  return (rt, e.records.foldl (Listening.record e.srcAddr) s.2)

namespace MLDRouter

/-- The listener table has the hosts of each source, and the sources that are queried are those without
a host. The queries that were sent are those of the last hosts that have left. -/
structure Tracks (rt : MLDRouter) (m : Listening) : Prop where
  group : ∀ ma, (rt.lsTable.searchMAR ma).map (·.type) = if ma ∈ m.groups then some isIn else none
  source : ∀ ma sa, (rt.lsTable.searchSA ma sa isIn).isSome ↔ sa ∈ m.sources ma
  slots : ∀ ma sa s, rt.lsTable.searchSA ma sa isIn = some s → s.Holds (m.hosts ma sa)
  listened : ∀ ma sa, m.hosts ma sa ≠ ∅ → sa ∈ m.sources ma
  specified : ∀ ma sa, .unspecified ∉ m.hosts ma sa
  queried : rt.massqTable.Queried
  pending : ∀ ma sa, (rt.massqTable.searchSA ma sa isIn).isSome ↔ sa ∈ m.silent ma
  queries : List.Forall₂ (fun sent query => sent.1 = query.1 ∧ ∀ sa, sa ∈ sent.2 ↔ sa ∈ query.2)
    rt.queries m.queries

namespace Tracks

variable {rt : MLDRouter} {m : Listening} {srcAddr ma sa : Ipv6Addr} {ns : BitVec 16}
  {lsTable massqTable : MLDv2Record} {s : SARecord}

theorem create : MLDRouter.create.Tracks .empty where
  group _ := rfl
  source _ _ := iff_of_false nofun (Finset.notMem_empty _)
  slots _ _ _ := nofun
  listened _ _ hosts := absurd rfl hosts
  specified _ _ := Finset.notMem_empty _
  queried := .create
  pending _ _ := iff_of_false nofun (Finset.notMem_empty _)
  queries := .nil

theorem join (tracks : rt.Tracks m) (specified : srcAddr ≠ .unspecified)
    (types : ∀ other, (lsTable.searchMAR other).map (·.type) = (rt.lsTable.searchMAR other).map (·.type))
    (entry : ∀ other source, lsTable.searchSA other source isIn =
      if ma = other ∧ sa = source then some s else rt.lsTable.searchSA other source isIn)
    (holds : s.Holds (insert srcAddr (m.hosts ma sa))) (queried : massqTable.Queried)
    (pending : ∀ other source, (massqTable.searchSA other source isIn).isSome ↔
      ¬ (ma = other ∧ sa = source) ∧ (rt.massqTable.searchSA other source isIn).isSome) :
    MLDRouter.Tracks { rt with lsTable, massqTable } (m.join srcAddr ma sa) where
  group other := (types other).trans (tracks.group other)
  source other source := by
    change (lsTable.searchSA other source isIn).isSome ↔ _
    rw [entry, Membership.mem_sources_join]
    split
    · rename_i both
      exact iff_of_true rfl (Or.inl both)
    · rename_i differs
      rw [or_iff_right differs]
      exact tracks.source other source
  slots other source s' found := by
    have found : (if ma = other ∧ sa = source then some s else rt.lsTable.searchSA other source isIn) = some s' :=
      (entry other source).symm.trans found
    rw [Membership.hosts_join]
    split at found
    · rename_i both
      cases found
      rw [if_pos both, ← both.1, ← both.2]
      exact holds
    · rename_i differs
      rw [if_neg differs]
      exact tracks.slots other source s' found
  listened other source hosts := by
    rw [Membership.mem_sources_join]
    rw [Membership.hosts_join] at hosts
    split at hosts
    · rename_i both
      exact Or.inl both
    · exact Or.inr (tracks.listened other source hosts)
  specified other source := by
    rw [Membership.hosts_join]
    split
    · rw [Finset.mem_insert]
      exact not_or.mpr ⟨specified.symm, tracks.specified other source⟩
    · exact tracks.specified other source
  queried := queried
  pending other source := by
    rw [Membership.mem_silent_join, ← tracks.pending]
    exact pending other source
  queries := tracks.queries

/-- The sources of a group that are queried are no more than those that are listened to. -/
theorem length_massq (tracks : rt.Tracks m) {r : MARecord} (found : rt.massqTable.searchMAR ma = some r) :
    r.inSAL.length ≤ (m.sources ma).card := by
  obtain ⟨distinct, _⟩ := tracks.queried.sources ma r found
  have listed : (r.inSAL.map (·.sa)).toFinset ⊆ m.sources ma := by
    intro source member
    obtain ⟨s, at_s, rfl⟩ := List.mem_map.mp (List.mem_toFinset.mp member)
    have entry : (rt.massqTable.searchSA ma s.sa isIn).isSome := by
      unfold MLDv2Record.searchSA
      rw [found, Option.bind_some, MARecord.sal_isIn, KeyList.Distinct.find distinct at_s]
      rfl
    exact (Membership.mem_silent.mp ((tracks.pending ma s.sa).mp entry)).1
  calc r.inSAL.length
      = (r.inSAL.map (·.sa)).length := (List.length_map _).symm
    _ = (r.inSAL.map (·.sa)).toFinset.card := (List.toFinset_card_of_nodup distinct).symm
    _ ≤ (m.sources ma).card := Finset.card_le_card listed

theorem found (tracks : rt.Tracks m) (group : ma ∈ m.groups) :
    ∃ r, rt.lsTable.searchMAR ma = some r ∧ r.type = isIn := by
  have types := tracks.group ma
  rw [if_pos group] at types
  exact Option.map_eq_some_iff.mp types

theorem absent (tracks : rt.Tracks m) (group : ma ∉ m.groups) : rt.lsTable.searchMAR ma = none := by
  have types := tracks.group ma
  rw [if_neg group] at types
  exact Option.map_eq_none_iff.mp types

section Include

variable (tracks : rt.Tracks m) (group : ma ∈ m.groups) (sender : srcAddr ≠ .unspecified)
  (card : (insert srcAddr (m.hosts ma sa)).card ≤ listenerRecord)

include tracks group sender card

theorem includeNew (quiet : sa ∉ m.silent ma) : (rt.includeNew srcAddr ma sa).Tracks (m.join srcAddr ma sa) := by
  obtain ⟨r, at_ma, _⟩ := tracks.found group
  have holds : ((rt.lsTable.searchSA ma sa isIn).getD (.create sa mldMali)).Holds (m.hosts ma sa) := by
    cases entry : rt.lsTable.searchSA ma sa isIn with
    | some s => exact tracks.slots ma sa s entry
    | none =>
        have nobody : m.hosts ma sa = ∅ := by
          by_contra hosts
          have listed := (tracks.source ma sa).mpr (tracks.listened ma sa hosts)
          rw [entry] at listed
          cases listed
        rw [nobody]
        exact SARecord.holds_create
  refine tracks.join sender (fun other => MLDv2Record.type_modifySA.trans MLDv2Record.type_addSA)
    (fun other source => ?_) (holds.listen sender card) tracks.queried fun other source => ?_
  · rw [MLDv2Record.searchSA_modifySA fun _ => SARecord.listen_sa, MLDv2Record.searchSA_addSA at_ma,
      MLDv2Record.searchSA_addSA at_ma]
    split
    · rw [if_pos ⟨rfl, rfl⟩]
      rfl
    · rfl
  · refine (and_iff_right_of_imp ?_).symm
    rintro listed ⟨rfl, rfl⟩
    exact quiet ((tracks.pending ma sa).mp listed)

theorem includeSA (few : (m.sources ma).card < 2 ^ 16) :
    (rt.includeSA srcAddr ma sa).Tracks (m.join srcAddr ma sa) := by
  unfold MLDRouter.includeSA
  cases entry : rt.lsTable.searchSA ma sa isIn with
  | some s =>
      have kept := tracks.slots ma sa s entry
      have timed : ({ s with sourceTimer := mldMali } : SARecord).Holds (m.hosts ma sa) :=
        ⟨kept.once, kept.only, kept.counted⟩
      refine tracks.join sender (fun other => MLDv2Record.type_modifySA) (fun other source => ?_)
        (timed.listen sender card) tracks.queried.endMASSQ fun other source => ?_
      · rw [MLDv2Record.searchSA_modifySA (by intro s; exact SARecord.listen_sa), entry]
        rfl
      · rw [tracks.queried.searchSA_endMASSQ fun r found => (tracks.length_massq found).trans_lt few]
        split
        · rename_i both
          exact iff_of_false nofun fun kept => kept.1 both
        · rename_i differs
          rw [and_iff_right differs]
  | none =>
      have quiet : sa ∉ m.silent ma := by
        intro silent
        have listed := (tracks.source ma sa).mpr (Membership.mem_silent.mp silent).1
        rw [entry] at listed
        cases listed
      exact tracks.includeNew group sender card quiet

end Include

theorem addMA (tracks : rt.Tracks m) (group : ma ∉ m.groups) :
    MLDRouter.Tracks { rt with lsTable := (rt.lsTable.addMA ma isIn ns).2 } (m.openGroup ma) := by
  have absent := tracks.absent group
  have entry (other source : Ipv6Addr) : (rt.lsTable.addMA ma isIn ns).2.searchSA other source isIn =
      rt.lsTable.searchSA other source isIn := MLDv2Record.searchSA_addMA
  refine ⟨fun other => ?_, fun other source => ?_, fun other source s found => ?_, tracks.listened,
    tracks.specified, tracks.queried, tracks.pending, tracks.queries⟩
  · change ((rt.lsTable.addMA ma isIn ns).2.searchMAR other).map (·.type) = if other ∈ insert ma m.groups then _ else _
    rw [MLDv2Record.searchMAR_addMA absent]
    by_cases same : ma = other
    · rw [if_pos same, if_pos (Finset.mem_insert.mpr (Or.inl same.symm))]
      rfl
    · have kept : other ∈ insert ma m.groups ↔ other ∈ m.groups :=
        Finset.mem_insert.trans (or_iff_right (Ne.symm same))
      rw [if_neg same, tracks.group other]
      exact ite_congr (propext kept.symm) (fun _ => rfl) fun _ => rfl
  · exact entry other source ▸ tracks.source other source
  · exact tracks.slots other source s ((entry other source).symm.trans found)

theorem sources_absent (tracks : rt.Tracks m) (group : ma ∉ m.groups) : m.sources ma = ∅ := by
  refine Finset.eq_empty_of_forall_notMem fun source listed => ?_
  have entry := (tracks.source ma source).mpr listed
  unfold MLDv2Record.searchSA at entry
  rw [tracks.absent group] at entry
  cases entry

theorem openGroup (tracks : rt.Tracks m) (group : ma ∈ m.groups) : rt.Tracks (m.openGroup ma) := by
  have same : m.openGroup ma = m := by
    unfold Membership.openGroup
    rw [Finset.insert_eq_of_mem group]
  rw [same]
  exact tracks

theorem leave (tracks : rt.Tracks m) (listed : sa ∈ m.sources ma)
    (types : ∀ other, (lsTable.searchMAR other).map (·.type) = (rt.lsTable.searchMAR other).map (·.type))
    (entry : ∀ other source, lsTable.searchSA other source isIn =
      if ma = other ∧ sa = source then some s else rt.lsTable.searchSA other source isIn)
    (holds : s.Holds ((m.hosts ma sa).erase srcAddr)) (queried : massqTable.Queried)
    (pending : ∀ other source, (massqTable.searchSA other source isIn).isSome ↔
      source ∈ (m.leave srcAddr ma sa).silent other) :
    MLDRouter.Tracks { rt with lsTable, massqTable } (m.leave srcAddr ma sa) where
  group other := (types other).trans (tracks.group other)
  source other source := by
    change (lsTable.searchSA other source isIn).isSome ↔ source ∈ m.sources other
    rw [entry]
    split
    · rename_i both
      rw [← both.1, ← both.2]
      exact iff_of_true rfl listed
    · exact tracks.source other source
  slots other source s' found := by
    have found : (if ma = other ∧ sa = source then some s else rt.lsTable.searchSA other source isIn) = some s' :=
      (entry other source).symm.trans found
    rw [Membership.hosts_leave]
    split at found
    · rename_i both
      cases found
      rw [if_pos both, ← both.1, ← both.2]
      exact holds
    · rename_i differs
      rw [if_neg differs]
      exact tracks.slots other source s' found
  listened other source hosts := by
    rw [Membership.hosts_leave] at hosts
    split at hosts
    · rename_i both
      rw [← both.1, ← both.2]
      exact listed
    · exact tracks.listened other source hosts
  specified other source := by
    rw [Membership.hosts_leave]
    split
    · exact fun member => tracks.specified other source (Finset.mem_of_mem_erase member)
    · exact tracks.specified other source
  queried := queried
  pending := pending
  queries := tracks.queries

theorem blockSA (tracks : rt.Tracks m) (sender : srcAddr ≠ .unspecified) {bBlock : Bool} :
    (MLDRouter.blockSA srcAddr ma ns (rt, bBlock) sa).1.Tracks (m.leave srcAddr ma sa) ∧
    ((MLDRouter.blockSA srcAddr ma ns (rt, bBlock) sa).2 ↔
      bBlock ∨ m.hosts ma sa ≠ ∅ ∧ (m.hosts ma sa).erase srcAddr = ∅) := by
  unfold MLDRouter.blockSA
  dsimp only
  cases found : rt.lsTable.searchSA ma sa isIn with
  | none =>
      have nobody : m.hosts ma sa = ∅ := by
        by_contra hosts
        have listed := (tracks.source ma sa).mpr (tracks.listened ma sa hosts)
        rw [found] at listed
        cases listed
      rw [Membership.leave_eq (nobody ▸ Finset.notMem_empty srcAddr)]
      exact ⟨tracks, (or_iff_left fun last => last.1 nobody).symm⟩
  | some s =>
      have listed : sa ∈ m.sources ma := (tracks.source ma sa).mp (by rw [found]; rfl)
      have holds := (tracks.slots ma sa s found).unlisten (tracks.specified ma sa) sender
      have counts := holds.counts fun member => tracks.specified ma sa (Finset.mem_of_mem_erase member)
      dsimp only
      split
      · rename_i zero
        have none_left : (m.hosts ma sa).erase srcAddr = ∅ := counts.mp zero
        obtain ⟨r, at_ma⟩ := @MLDv2Record.found_addMA rt.massqTable ma block ns
        have timed : ({ s.unlisten srcAddr with sourceTimer := mldLlqt - 1 } : SARecord).Holds
            ((m.hosts ma sa).erase srcAddr) := ⟨holds.once, holds.only, holds.counted⟩
        refine ⟨tracks.leave listed (fun other => MLDv2Record.type_modifySA.trans MLDv2Record.type_modifySA)
          (fun other source => ?_) timed tracks.queried.addMA.addSA fun other source => ?_, ?_⟩
        · rw [MLDv2Record.searchSA_modifySA (by intro s; rfl),
            MLDv2Record.searchSA_modifySA fun _ => SARecord.unlisten_sa,
            MLDv2Record.searchSA_modifySA fun _ => SARecord.unlisten_sa, found]
          split
          · rw [if_pos ⟨rfl, rfl⟩]
            rfl
          · rfl
        · rw [MLDv2Record.searchSA_addSA at_ma, Membership.mem_silent_leave_iff listed]
          split
          · rename_i both
            exact iff_of_true rfl (Or.inl ⟨both.1, both.2, none_left⟩)
          · rename_i differs
            rw [MLDv2Record.searchSA_addMA, tracks.pending,
              or_iff_right fun last => differs ⟨last.1, last.2.1⟩, and_iff_right differs]
        · -- a source that was not queried had a host
          rw [MLDv2Record.addSA_added at_ma, MLDv2Record.searchSA_addMA, Bool.or_eq_true,
            and_iff_left none_left, Option.isNone_iff_eq_none, ← Option.not_isSome_iff_eq_none,
            tracks.pending, Membership.mem_silent, and_iff_right listed]
      · rename_i left
        have others : (m.hosts ma sa).erase srcAddr ≠ ∅ := fun none => left (counts.mpr none)
        refine ⟨tracks.leave listed (fun other => MLDv2Record.type_modifySA) (fun other source => ?_) holds
          tracks.queried fun other source => ?_, (or_iff_left fun last => others last.2).symm⟩
        · rw [MLDv2Record.searchSA_modifySA fun _ => SARecord.unlisten_sa, found]
          rfl
        · rw [tracks.pending, Membership.mem_silent_leave_iff listed]
          by_cases both : ma = other ∧ sa = source
          · obtain ⟨rfl, rfl⟩ := both
            have hosts : m.hosts ma sa ≠ ∅ := fun none => others (by rw [none, Finset.erase_empty])
            refine iff_of_false (fun silent => hosts (Membership.mem_silent.mp silent).2) ?_
            exact not_or.mpr ⟨fun last => others last.2.2, fun kept => kept.1 ⟨rfl, rfl⟩⟩
          · rw [or_iff_right fun last => both ⟨last.1, last.2.1⟩, and_iff_right both]

section Foldl

variable {sas : List Ipv6Addr} (sender : srcAddr ≠ .unspecified)

include sender

theorem foldl_includeSA (tracks : rt.Tracks m) (group : ma ∈ m.groups)
    (card : ∀ sa ∈ sas, (insert srcAddr (m.hosts ma sa)).card ≤ listenerRecord)
    (few : (m.sources ma ∪ sas.toFinset).card < 2 ^ 16) :
    (sas.foldl (·.includeSA srcAddr ma ·) rt).Tracks (sas.foldl (Membership.join srcAddr ma) m) := by
  induction sas generalizing rt m with
  | nil => exact tracks
  | cons sa rest ih =>
      have first := tracks.includeSA group sender (card sa List.mem_cons_self)
        (lt_of_le_of_lt (Finset.card_le_card Finset.subset_union_left) few)
      refine ih first group (fun next member => ?_) ?_
      · rw [Membership.hosts_join]
        have bound := card next (List.mem_cons_of_mem sa member)
        split
        · rw [Finset.insert_idem]
          exact bound
        · exact bound
      · rw [Membership.sources_join, if_pos rfl, Finset.insert_union]
        rwa [List.toFinset_cons, Finset.union_insert] at few

theorem foldl_includeNew (tracks : rt.Tracks m) (group : ma ∈ m.groups)
    (card : ∀ sa ∈ sas, (insert srcAddr (m.hosts ma sa)).card ≤ listenerRecord) (quiet : m.silent ma = ∅) :
    (sas.foldl (·.includeNew srcAddr ma ·) rt).Tracks (sas.foldl (Membership.join srcAddr ma) m) := by
  induction sas generalizing rt m with
  | nil => exact tracks
  | cons sa rest ih =>
      have first := tracks.includeNew group sender (card sa List.mem_cons_self)
        (quiet ▸ Finset.notMem_empty sa)
      refine ih first group (fun next member => ?_) ?_
      · rw [Membership.hosts_join]
        have bound := card next (List.mem_cons_of_mem sa member)
        split
        · rw [Finset.insert_idem]
          exact bound
        · exact bound
      · refine Finset.eq_empty_of_forall_notMem fun source silent => ?_
        have before := (Membership.mem_silent_join.mp silent).2
        rw [quiet] at before
        exact Finset.notMem_empty source before

theorem foldl_blockSA (tracks : rt.Tracks m) {bBlock : Bool} :
    (sas.foldl (MLDRouter.blockSA srcAddr ma ns) (rt, bBlock)).1.Tracks (sas.foldl (Membership.leave srcAddr ma) m) ∧
    ((sas.foldl (MLDRouter.blockSA srcAddr ma ns) (rt, bBlock)).2 ↔ bBlock ∨ ∃ sa ∈ sas,
      m.hosts ma sa ≠ ∅ ∧ (sas.foldl (Membership.leave srcAddr ma) m).hosts ma sa = ∅) := by
  induction sas generalizing rt m bBlock with
  | nil =>
      refine ⟨tracks, (or_iff_left ?_).symm⟩
      rintro ⟨sa, member, _⟩
      cases member
  | cons sa rest ih =>
      obtain ⟨first, blocks⟩ := @blockSA rt m srcAddr ma sa ns tracks sender bBlock
      obtain ⟨later, later_blocks⟩ := @ih _ _ first (MLDRouter.blockSA srcAddr ma ns (rt, bBlock) sa).2
      refine ⟨later, ?_⟩
      have left : (m.leave srcAddr ma sa).hosts ma sa = (m.hosts ma sa).erase srcAddr := if_pos ⟨rfl, rfl⟩
      rw [Membership.lost_cons, ← or_assoc, left, ← blocks]
      exact later_blocks

theorem blockSources (tracks : rt.Tracks m) :
    (rt.blockSources srcAddr ma ns sas).Tracks (m.block srcAddr ma sas) := by
  obtain ⟨left, blocks⟩ := @foldl_blockSA rt m srcAddr ma ns sas sender tracks false
  rw [Bool.false_eq_true, false_or] at blocks
  unfold MLDRouter.blockSources Membership.block
  dsimp only
  generalize sas.foldl (MLDRouter.blockSA srcAddr ma ns) (rt, false) = blocked at left blocks ⊢
  by_cases lost : blocked.2
  · rw [if_pos lost, if_pos (blocks.mp lost)]
    have queried (source : Ipv6Addr) :
        source ∈ ((blocked.1.massqTable.searchMAR ma).map fun r => r.inSAL.map (·.sa)).getD [] ↔
          source ∈ Membership.silent (sas.foldl (Membership.leave srcAddr ma) m) ma := by
      rw [← left.pending]
      unfold MLDv2Record.searchSA
      cases blocked.1.massqTable.searchMAR ma with
      | none => exact iff_of_false nofun nofun
      | some r =>
          rw [Option.map_some, Option.getD_some, Option.bind_some, MARecord.sal_isIn]
          exact KeyList.find_isSome.symm
    exact ⟨left.group, left.source, left.slots, left.listened, left.specified, left.queried, left.pending,
      List.rel_append left.queries (.cons ⟨rfl, queried⟩ .nil)⟩
  · rw [if_neg lost, if_neg (mt blocks.mpr lost)]
    exact left

end Foldl

section Record

variable {r : ReportedRecord} (tracks : rt.Tracks m) (admits : m.Admits srcAddr r)
  (formed : r.header.ns.toInt = r.sources.length ∧
    (r.header.type = isIn ∨ r.header.type = allow ∨ r.header.type = block))

include tracks admits formed

theorem fullyRead : rt.FullyRead r := by
  obtain ⟨number, types⟩ := formed
  have read : rt.reads r.header.ma r.header.type := by
    by_cases group : r.header.ma ∈ m.groups
    · obtain ⟨stored, found, included⟩ := tracks.found group
      rw [reads_isIn found included]
      exact decide_eq_true types
    · rw [reads_absent (tracks.absent group)]
      exact decide_eq_true (admits.opened.resolve_left group)
  unfold FullyRead
  rw [if_pos read, number, Int.toNat_natCast]

theorem process : (rt.process srcAddr ns r.header r.sources).Tracks (m.record srcAddr r) := by
  have in_not_block : isIn ≠ block := by decide
  have allow_not_block : allow ≠ block := by decide
  unfold MLDRouter.process Listening.record
  by_cases group : r.header.ma ∈ m.groups
  · obtain ⟨stored, found, included⟩ := tracks.found group
    rw [found]
    dsimp only
    rw [if_pos included]
    by_cases adds : r.header.type = isIn ∨ r.header.type = allow
    · have joins : r.header.type ≠ block := by
        rcases adds with is_in | allows
        · rw [is_in]
          exact in_not_block
        · rw [allows]
          exact allow_not_block
      rw [if_pos adds, if_neg joins]
      exact (tracks.openGroup group).foldl_includeSA admits.specified (Finset.mem_insert_self _ _)
        (admits.hosts joins) admits.few
    · have blocks : r.header.type = block := by
        rcases formed.2 with is_in | allows | blocks
        · exact absurd (Or.inl is_in) adds
        · exact absurd (Or.inr allows) adds
        · exact blocks
      rw [if_neg adds, if_pos blocks, if_pos blocks]
      exact tracks.blockSources admits.specified
  · have is_in : r.header.type = isIn := admits.opened.resolve_left group
    have joins : r.header.type ≠ block := is_in ▸ in_not_block
    rw [tracks.absent group]
    dsimp only
    rw [if_pos is_in, if_neg joins, is_in]
    refine (tracks.addMA group).foldl_includeNew admits.specified (Finset.mem_insert_self _ _)
      (admits.hosts joins) ?_
    change Finset.filter _ (m.sources r.header.ma) = ∅
    rw [tracks.sources_absent group, Finset.filter_empty]

end Record

theorem parseRecords {msg : MLDv2Report} {rs : List ReportedRecord} {front back : Bytes}
    (opt : msg.opt = front ++ recordBytes rs ++ back) (tracks : rt.Tracks m)
    (admits : Listening.AdmitsAll srcAddr m rs) (formed : ∀ r ∈ rs, r.header.ns.toInt = r.sources.length ∧
      (r.header.type = isIn ∨ r.header.type = allow ∨ r.header.type = block)) :
    ∃ rt' offset, MLDRouter.parseRecords msg srcAddr ns rs.length rt front.length = .ok (rt', offset) ∧
      rt'.Tracks (rs.foldl (Listening.record srcAddr) m) := by
  induction rs generalizing rt m front with
  | nil => exact ⟨rt, front.length, rfl, tracks⟩
  | cons r rest ih =>
      obtain ⟨admits, later_admits⟩ := admits
      have first : msg.opt = front ++ r.bytes ++ (recordBytes rest ++ back) := by
        rw [opt]
        change front ++ (r.bytes ++ recordBytes rest) ++ back = _
        simp only [List.append_assoc]
      have behind : (front ++ r.bytes).length = front.length + r.size := by
        rw [List.length_append, r.length_bytes]
      have formed_first := formed r List.mem_cons_self
      have fully := tracks.fullyRead admits formed_first
      obtain ⟨rt', offset, parses, later⟩ := ih (first.trans (List.append_assoc ..).symm)
        (@process rt m srcAddr ns r tracks admits formed_first) later_admits
        fun next member => formed next (List.mem_cons_of_mem r member)
      refine ⟨rt', offset, ?_, later⟩
      rw [List.length_cons]
      unfold MLDRouter.parseRecords
      rw [parseRecord_fullyRead first fully, ok_bind]
      dsimp only
      rw [← behind]
      exact parses

theorem report {s : MLDRouter × Listening} (tracks : s.1.Tracks s.2) {e : ListenerReport}
    (admits : Listening.AdmitsAll e.srcAddr s.2 e.records) :
    ∃ s', MLDRouter.report s e = .ok s' ∧ s'.1.Tracks s'.2 := by
  obtain ⟨rt', offset, parses, later⟩ :=
    @parseRecords s.1 s.2 e.srcAddr e.ns e.msg e.records [] e.slack e.opt tracks admits e.formed
  refine ⟨(rt', _), ?_, later⟩
  unfold MLDRouter.report MLDRouter.parseMsg
  rw [e.number]
  change ((·.1) <$> MLDRouter.parseRecords e.msg e.srcAddr e.ns e.records.length s.1 0) >>= _ = _
  rw [List.length_nil] at parses
  rw [parses]
  rfl

end Tracks

end MLDRouter

/-- In every sequence of IS_IN, ALLOW and BLOCK reports from hosts with an address, of which the first
for each group is IS_IN, the listeners of each source are the hosts that listen to it, each once and
counted, and the queries are for sources whose last host has left. The next such report is processed. -/
theorem listener_reports {s : MLDRouter × Listening} {es : List ListenerReport}
    (runs : Runs MLDRouter.report (fun s e => Listening.AdmitsAll e.srcAddr s.2 e.records)
      (MLDRouter.create, .empty) es s) :
    s.1.Tracks s.2 ∧ ∀ e : ListenerReport, Listening.AdmitsAll e.srcAddr s.2 e.records →
      ∃ s', MLDRouter.report s e = .ok s' ∧ s'.1.Tracks s'.2 := by
  have tracks : s.1.Tracks s.2 := by
    refine runs.invariant (fun s => s.1.Tracks s.2) (fun s e s' tracks admits reports => ?_)
      MLDRouter.Tracks.create
    obtain ⟨next, same, later⟩ := tracks.report admits
    cases same.symm.trans reports
    exact later
  exact ⟨tracks, fun e admits => tracks.report admits⟩

def exampleReport (type : RecordType)
    (known : type = isIn ∨ type = allow ∨ type = block) : ListenerReport where
  srcAddr := ⟨0xfe800000, 0, 0, 7⟩
  msg := ⟨1, recordBytes [⟨⟨type, 0, 1, ⟨0xff3e0000, 0, 0, 1⟩⟩, [⟨9, 0, 0, 9⟩]⟩]⟩
  ns := 0
  records := [⟨⟨type, 0, 1, ⟨0xff3e0000, 0, 0, 1⟩⟩, [⟨9, 0, 0, 9⟩]⟩]
  slack := []
  number := rfl
  opt := (List.append_nil _).symm
  formed r member := by
    cases List.mem_singleton.mp member
    exact ⟨rfl, known⟩

theorem listener_reports_example : ∃ s, Runs MLDRouter.report
    (fun s e => Listening.AdmitsAll e.srcAddr s.2 e.records) (MLDRouter.create, .empty)
    [exampleReport isIn (Or.inl rfl), exampleReport allow (Or.inr (Or.inl rfl)),
      exampleReport block (Or.inr (Or.inr rfl))] s ∧
    s.1.queries = [(⟨0xff3e0000, 0, 0, 1⟩, [⟨9, 0, 0, 9⟩])] ∧ s.1.Tracks s.2 := by
  have checked : (run (fun s e => Exec.assert (Listening.AdmitsAll e.srcAddr s.2 e.records) >>= fun _ =>
      MLDRouter.report s e) (MLDRouter.create, .empty) [exampleReport isIn (Or.inl rfl),
        exampleReport allow (Or.inr (Or.inl rfl)), exampleReport block (Or.inr (Or.inr rfl))]).map
      (fun s => s.1.queries) = .ok [(⟨0xff3e0000, 0, 0, 1⟩, [⟨9, 0, 0, 9⟩])] := by decide +kernel
  obtain ⟨s, ends, queries⟩ := map_eq_ok checked
  have runs := Runs.of_checked ends
  exact ⟨s, runs, queries, (listener_reports runs).1⟩

/-- After an ALLOW record for a new group the host is never a listener, not with a later IS_IN record. -/
theorem listener_reports_fails : ∃ s, run MLDRouter.report (MLDRouter.create, .empty)
    [exampleReport allow (Or.inr (Or.inl rfl)), exampleReport isIn (Or.inl rfl)] = .ok s ∧
    ⟨0xfe800000, 0, 0, 7⟩ ∈ s.2.hosts ⟨0xff3e0000, 0, 0, 1⟩ ⟨9, 0, 0, 9⟩ ∧
    s.1.lsTable.searchSA ⟨0xff3e0000, 0, 0, 1⟩ ⟨9, 0, 0, 9⟩ isIn = none ∧ ¬ s.1.Tracks s.2 := by
  have checked : (run MLDRouter.report (MLDRouter.create, .empty)
      [exampleReport allow (Or.inr (Or.inl rfl)), exampleReport isIn (Or.inl rfl)]).map (fun s =>
        (decide (⟨0xfe800000, 0, 0, 7⟩ ∈ s.2.hosts ⟨0xff3e0000, 0, 0, 1⟩ ⟨9, 0, 0, 9⟩),
          (s.1.lsTable.searchSA ⟨0xff3e0000, 0, 0, 1⟩ ⟨9, 0, 0, 9⟩ isIn).isNone)) =
      .ok (true, true) := by decide +kernel
  obtain ⟨s, ends, seen⟩ := map_eq_ok checked
  obtain ⟨listens, unknown⟩ := Prod.mk.inj seen
  have listens := of_decide_eq_true listens
  have unknown := Option.isNone_iff_eq_none.mp unknown
  refine ⟨s, ends, listens, unknown, fun tracks => ?_⟩
  have found := (tracks.source _ _).mpr (tracks.listened _ _ (Finset.ne_empty_of_mem listens))
  rw [unknown] at found
  cases found

end IPv6Suite
