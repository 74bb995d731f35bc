import IPv6Suite.ReportParsing
import Mathlib.Data.Fintype.Basic
import Mathlib.Data.Finset.Card

namespace IPv6Suite

open Lib RecordType

namespace SARecord

/-- The listeners of a source are the hosts, each at one place, and they are counted. -/
structure Holds (s : SARecord) (hosts : Finset Ipv6Addr) : Prop where
  once : ∀ host ∈ hosts, ∃! k, s.listener k = host
  only : ∀ k, s.listener k ≠ .unspecified → s.listener k ∈ hosts
  counted : s.countListener.toInt = (Finset.univ.filter fun k => s.listener k ≠ .unspecified).card

/-- The only place of a listener -/
def place : Fin listenerRecord := ⟨0, by decide⟩

variable {s : SARecord} {hosts : Finset Ipv6Addr} {host addr : Ipv6Addr}

theorem eq_place (k : Fin listenerRecord) : k = place := Subsingleton.elim (α := Fin 1) k place

theorem listenerSlot_eq : s.listenerSlot addr = if s.listener place = addr then some place else none := by
  change List.find? (fun k => decide (s.listener k = addr)) [place] = _
  by_cases found : s.listener place = addr
  · rw [if_pos found]
    exact List.find?_cons_of_pos (decide_eq_true found)
  · rw [if_neg found]
    exact List.find?_cons_of_neg (by rwa [decide_eq_true_eq])

theorem occupied_eq : (Finset.univ.filter fun k => s.listener k ≠ .unspecified).card =
    if s.listener place = .unspecified then 0 else 1 := by
  have all : (Finset.univ : Finset (Fin listenerRecord)) = {place} := rfl
  rw [all, Finset.filter_singleton]
  by_cases free : s.listener place = .unspecified
  · rw [if_pos free, if_neg (not_not.mpr free), Finset.card_empty]
  · rw [if_neg free, if_pos free, Finset.card_singleton]

theorem holds_empty : s.Holds ∅ ↔ s.listener place = .unspecified ∧ s.countListener = 0 := by
  constructor
  · intro holds
    have free : s.listener place = .unspecified :=
      not_not.mp fun occupied => Finset.notMem_empty _ (holds.only place occupied)
    have counted := holds.counted
    rw [occupied_eq, if_pos free] at counted
    exact ⟨free, BitVec.toInt_inj.mp counted⟩
  · rintro ⟨free, none⟩
    refine ⟨fun host member => absurd member (Finset.notMem_empty host), ?_, ?_⟩
    · exact fun k occupied => absurd (eq_place k ▸ free) occupied
    · rw [occupied_eq, if_pos free, none]
      rfl

theorem holds_singleton (specified : host ≠ .unspecified) :
    s.Holds {host} ↔ s.listener place = host ∧ s.countListener = 1 := by
  constructor
  · intro holds
    obtain ⟨k, at_k, _⟩ := holds.once host (Finset.mem_singleton_self host)
    have placed : s.listener place = host := eq_place k ▸ at_k
    have counted := holds.counted
    rw [occupied_eq, if_neg (placed ▸ specified)] at counted
    exact ⟨placed, BitVec.toInt_inj.mp counted⟩
  · rintro ⟨placed, one⟩
    refine ⟨?_, ?_, ?_⟩
    · intro other member
      rw [Finset.mem_singleton.mp member]
      exact ⟨place, placed, fun k _ => eq_place k⟩
    · intro k _
      rw [eq_place k, placed]
      exact Finset.mem_singleton_self host
    · rw [occupied_eq, if_neg (placed ▸ specified), one]
      rfl

theorem holds_create {sa : Ipv6Addr} {sourceTimer : BitVec 32} : (create sa sourceTimer).Holds ∅ :=
  holds_empty.mpr ⟨rfl, rfl⟩

theorem hosts_of_card (card : (insert host hosts).card ≤ listenerRecord) : hosts = ∅ ∨ hosts = {host} := by
  have alone : insert host hosts = {host} :=
    (Finset.eq_of_subset_of_card_le (Finset.singleton_subset_iff.mpr (Finset.mem_insert_self host hosts))
      card).symm
  exact Finset.subset_singleton_iff.mp (alone ▸ Finset.subset_insert host hosts)

theorem Holds.listen (holds : s.Holds hosts) (specified : host ≠ .unspecified)
    (card : (insert host hosts).card ≤ listenerRecord) : (s.listen host).Holds (insert host hosts) := by
  rcases hosts_of_card card with rfl | rfl
  · obtain ⟨free, zero⟩ := holds_empty.mp holds
    change (s.listen host).Holds {host}
    have room : s.countListener.toInt < listenerRecord := by
      rw [zero]
      decide
    rw [holds_singleton specified]
    unfold SARecord.listen
    rw [if_pos room, listenerSlot_eq, if_pos free]
    dsimp only
    exact ⟨if_pos rfl, congrArg (· + 1) zero⟩
  · obtain ⟨placed, one⟩ := (holds_singleton specified).mp holds
    have full : ¬ s.countListener.toInt < listenerRecord := by
      rw [one]
      decide
    rw [Finset.insert_eq_of_mem (Finset.mem_singleton_self host), holds_singleton specified]
    unfold SARecord.listen
    rw [if_neg full]
    exact ⟨placed, one⟩

theorem Holds.one_host (holds : s.Holds hosts) (specified : .unspecified ∉ hosts) :
    hosts = ∅ ∨ ∃ host, hosts = {host} ∧ host ≠ .unspecified := by
  have placed : hosts ⊆ {s.listener place} := by
    intro host member
    obtain ⟨k, at_k, _⟩ := holds.once host member
    rw [Finset.mem_singleton, ← at_k, eq_place k]
  rcases Finset.subset_singleton_iff.mp placed with none | one
  · exact Or.inl none
  · refine Or.inr ⟨_, one, fun free => specified ?_⟩
    rw [one, free]
    exact Finset.mem_singleton_self _

theorem Holds.unlisten (holds : s.Holds hosts) (specified : .unspecified ∉ hosts)
    (sender : host ≠ .unspecified) : (s.unlisten host).Holds (hosts.erase host) := by
  rcases holds.one_host specified with rfl | ⟨listening, rfl, listening_specified⟩
  · obtain ⟨free, zero⟩ := holds_empty.mp holds
    rw [Finset.erase_empty, holds_empty]
    unfold SARecord.unlisten
    rw [listenerSlot_eq, if_neg (free ▸ sender.symm)]
    exact ⟨free, zero⟩
  · obtain ⟨placed, one⟩ := (holds_singleton listening_specified).mp holds
    by_cases same : listening = host
    · rw [← same, Finset.erase_singleton, holds_empty]
      unfold SARecord.unlisten
      rw [listenerSlot_eq, if_pos placed]
      dsimp only
      exact ⟨if_pos rfl, congrArg (· - 1) one⟩
    · rw [Finset.erase_eq_of_notMem fun member => same (Finset.mem_singleton.mp member).symm,
        holds_singleton listening_specified]
      unfold SARecord.unlisten
      rw [listenerSlot_eq, if_neg (placed ▸ same)]
      exact ⟨placed, one⟩

theorem Holds.counts (holds : s.Holds hosts) (specified : .unspecified ∉ hosts) :
    s.countListener = 0 ↔ hosts = ∅ := by
  rcases holds.one_host specified with rfl | ⟨listening, rfl, listening_specified⟩
  · exact iff_of_true (holds_empty.mp holds).2 rfl
  · have one := ((holds_singleton listening_specified).mp holds).2
    exact iff_of_false (by rw [one]; decide) (Finset.singleton_ne_empty listening)

end SARecord

namespace MLDv2Record

/-- The sources that are queried are counted, up to what a `short` can count. -/
structure Queried (t : MLDv2Record) : Prop where
  distinct : KeyList.Distinct (·.ma) t.mar
  sources : ∀ ma r, t.searchMAR ma = some r → KeyList.Distinct (·.sa) r.inSAL ∧
    r.inNS = BitVec.ofNat 16 r.inSAL.length

namespace Queried

variable {t : MLDv2Record} {ma sa other source : Ipv6Addr} {type : RecordType} {ns : BitVec 16}

theorem create : MLDv2Record.create.Queried := ⟨List.nodup_nil, nofun⟩

theorem addMA (queried : t.Queried) : (t.addMA ma type ns).2.Queried := by
  cases entry : t.searchMAR ma with
  | some r =>
      unfold MLDv2Record.addMA
      rw [entry]
      exact queried
  | none =>
      refine ⟨?_, fun other r found => ?_⟩
      · unfold MLDv2Record.addMA
        rw [entry]
        exact queried.distinct.cons entry
      · rw [searchMAR_addMA entry] at found
        split at found
        · cases found
          exact ⟨List.nodup_nil, rfl⟩
        · exact queried.sources other r found

theorem modifyMAR {f : MARecord → MARecord} (queried : t.Queried) (keeps : ∀ r, (f r).ma = r.ma)
    (modified : ∀ r, t.searchMAR ma = some r → KeyList.Distinct (·.sa) (f r).inSAL ∧
      (f r).inNS = BitVec.ofNat 16 (f r).inSAL.length) : (t.modifyMAR ma f).Queried where
  distinct := queried.distinct.modify fun r at_ma => (keeps r).trans at_ma
  sources other r found := by
    rw [searchMAR_modifyMAR keeps] at found
    split at found
    · obtain ⟨before, at_ma, rfl⟩ := Option.map_eq_some_iff.mp found
      exact modified before at_ma
    · exact queried.sources other r found

theorem addSA (queried : t.Queried) : (t.addSA ma sa isIn).2.Queried := by
  unfold MLDv2Record.addSA
  split
  · exact queried
  · exact queried
  · rename_i r found absent
    refine queried.modifyMAR (fun _ => linkSA_ma) fun same at_ma => ?_
    cases found.symm.trans at_ma
    obtain ⟨distinct, number⟩ := queried.sources ma r found
    rw [searchSA, found, Option.bind_some] at absent
    rw [MARecord.setNS_inSAL, MARecord.setNS_inNS]
    refine ⟨distinct.cons absent, ?_⟩
    change r.inNS + 1 = BitVec.ofNat 16 (r.inSAL.length + 1)
    rw [number, BitVec.ofNat_add]
    rfl

theorem delSA (queried : t.Queried) : (t.delSA ma sa isIn).2.Queried := by
  unfold MLDv2Record.delSA
  split
  · exact queried
  · rename_i s found
    refine queried.modifyMAR (fun _ => unlinkSA_ma) fun r at_ma => ?_
    obtain ⟨distinct, number⟩ := queried.sources ma r at_ma
    rw [searchSA, at_ma, Option.bind_some] at found
    rw [MARecord.setNS_inSAL, MARecord.setNS_inNS]
    refine ⟨distinct.remove, ?_⟩
    have shorter : (KeyList.remove (·.sa) sa r.inSAL).length + 1 = r.inSAL.length := KeyList.length_remove found
    change r.inNS - 1 = BitVec.ofNat 16 (KeyList.remove (·.sa) sa r.inSAL).length
    rw [number, ← shorter, BitVec.ofNat_add]
    exact BitVec.add_sub_cancel ..

theorem delMA (queried : t.Queried) : (t.delMA ma).2.Queried := by
  refine ⟨?_, fun other r found => ?_⟩
  · unfold MLDv2Record.delMA
    split
    · exact queried.distinct
    · exact queried.distinct.remove
  · rw [searchMAR_delMA queried.distinct] at found
    split at found
    · cases found
    · exact queried.sources other r found

theorem endMASSQ (queried : t.Queried) : (MLDRouter.endMASSQ t ma sa).Queried := by
  unfold MLDRouter.endMASSQ
  split
  · exact queried
  · dsimp only
    split
    · exact queried.delSA.delMA
    · exact queried.delSA

theorem length_delSA {r : MARecord} (found : (t.delSA ma sa isIn).2.searchMAR ma = some r) :
    ∃ before, t.searchMAR ma = some before ∧ r.inSAL.length ≤ before.inSAL.length := by
  unfold MLDv2Record.delSA at found
  split at found
  · exact ⟨r, found, Nat.le_refl _⟩
  · rw [searchMAR_modifyMAR fun _ => unlinkSA_ma, if_pos rfl] at found
    obtain ⟨before, at_ma, rfl⟩ := Option.map_eq_some_iff.mp found
    refine ⟨before, at_ma, ?_⟩
    rw [MARecord.setNS_inSAL]
    exact List.length_eraseP_le

theorem searchSA_endMASSQ (queried : t.Queried)
    (few : ∀ r, t.searchMAR ma = some r → r.inSAL.length < 2 ^ 16) :
    (MLDRouter.endMASSQ t ma sa).searchSA other source isIn =
      if ma = other ∧ sa = source then none else t.searchSA other source isIn := by
  have deleted := @searchSA_delSA t ma sa other source fun r found => (queried.sources ma r found).1
  cases entry : t.searchSA ma sa isIn with
  | none =>
      have kept : MLDRouter.endMASSQ t ma sa = t := by
        unfold MLDRouter.endMASSQ
        rw [entry]
      rw [kept]
      split
      · rename_i both
        rw [← both.1, ← both.2, entry]
      · rfl
  | some s =>
      unfold MLDRouter.endMASSQ
      rw [entry]
      dsimp only
      split
      · rename_i empty
        -- a group whose number of sources is 0 has none
        have unlisted : (t.delSA ma sa isIn).2.searchSA ma source isIn = none := by
          unfold searchSA
          cases found : (t.delSA ma sa isIn).2.searchMAR ma with
          | none => rfl
          | some r =>
              rw [found] at empty
              obtain ⟨before, at_ma, shorter⟩ := length_delSA found
              have bound := few before at_ma
              have zero : BitVec.ofNat 16 r.inSAL.length = 0 :=
                (queried.delSA.sources ma r found).2.symm.trans (of_decide_eq_true empty)
              have modular := congrArg BitVec.toNat zero
              rw [BitVec.toNat_ofNat, Nat.mod_eq_of_lt (by omega)] at modular
              have nil : r.inSAL = [] := List.eq_nil_of_length_eq_zero modular
              rw [Option.bind_some, MARecord.sal_isIn, nil]
              rfl
        rw [← deleted]
        unfold searchSA
        rw [searchMAR_delMA queried.delSA.distinct]
        split
        · rename_i same
          rw [← same]
          exact unlisted.symm
        · rfl
      · exact deleted

end Queried

end MLDv2Record

end IPv6Suite
