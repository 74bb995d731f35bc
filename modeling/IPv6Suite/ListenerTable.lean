import IPv6Suite.MLD

namespace IPv6Suite

open Lib RecordType

namespace MARecord

variable {r : MARecord} {sa : Ipv6Addr} {type : RecordType}

@[simp] theorem setNS_ma : r.setNS.ma = r.ma := by
  unfold setNS
  repeat' split
  all_goals rfl

@[simp] theorem setNS_type : r.setNS.type = r.type := by
  unfold setNS
  repeat' split
  all_goals rfl

@[simp] theorem setNS_inSAL : r.setNS.inSAL = r.inSAL := by
  unfold setNS
  repeat' split
  all_goals rfl

@[simp] theorem setNS_exSAL : r.setNS.exSAL = r.exSAL := by
  unfold setNS
  repeat' split
  all_goals rfl

@[simp] theorem setNS_inNS : r.setNS.inNS = r.inNS := by
  unfold setNS
  repeat' split
  all_goals rfl

@[simp] theorem sal_isIn : r.sal isIn = r.inSAL := rfl

end MARecord

namespace SARecord

variable {s : SARecord} {srcAddr : Ipv6Addr}

@[simp] theorem listen_sa : (s.listen srcAddr).sa = s.sa := by
  unfold listen
  repeat' split
  all_goals rfl

@[simp] theorem unlisten_sa : (s.unlisten srcAddr).sa = s.sa := by
  unfold unlisten
  split
  · rfl
  · rfl

end SARecord

namespace MLDv2Record

variable {t : MLDv2Record} {ma sa other source : Ipv6Addr} {type : RecordType} {r : MARecord}

/-- A group after its record is changed, and the other groups -/
theorem searchMAR_modifyMAR {f : MARecord → MARecord} (keeps : ∀ r, (f r).ma = r.ma) :
    (t.modifyMAR ma f).searchMAR other =
      if ma = other then (t.searchMAR ma).map f else t.searchMAR other := by
  unfold searchMAR modifyMAR
  split
  · rename_i same
    rw [← same]
    exact KeyList.find_modify_same fun r at_ma => (keeps r).trans at_ma
  · rename_i differs
    exact KeyList.find_modify_ne (fun r at_ma => (keeps r).trans at_ma) differs

variable {ns : BitVec 16}

theorem searchMAR_addMA (absent : t.searchMAR ma = none) :
    (t.addMA ma type ns).2.searchMAR other =
      if ma = other then some (.create ma type ns) else t.searchMAR other := by
  unfold addMA
  rw [absent]
  change KeyList.find _ other (MARecord.create ma type ns :: t.mar) = _
  split
  · rename_i same
    exact KeyList.find_cons_pos same
  · rename_i differs
    exact KeyList.find_cons_neg differs

/-- The sources of a group that is not changed -/
theorem searchSA_congr {t' : MLDv2Record} (same : t'.searchMAR other = t.searchMAR other) :
    t'.searchSA other source type = t.searchSA other source type := by
  unfold searchSA
  rw [same]

theorem searchSA_addMA {added : RecordType} :
    (t.addMA ma added ns).2.searchSA other source type = t.searchSA other source type := by
  cases absent : t.searchMAR ma with
  | some r =>
      unfold addMA
      rw [absent]
  | none =>
      unfold searchSA
      rw [searchMAR_addMA absent]
      split
      · rename_i same
        have empty : (MARecord.create ma added ns).sal type = [] := by
          unfold MARecord.sal
          repeat' split
          all_goals rfl
        rw [← same, absent, Option.bind_some, empty]
        rfl
      · rfl

theorem found_addMA : ∃ r, (t.addMA ma type ns).2.searchMAR ma = some r := by
  cases absent : t.searchMAR ma with
  | some r =>
      unfold addMA
      rw [absent]
      exact ⟨r, absent⟩
  | none => exact ⟨_, (searchMAR_addMA absent).trans (if_pos rfl)⟩

theorem addSA_added (found : t.searchMAR ma = some r) :
    (t.addSA ma sa type).1 = (t.searchSA ma sa type).isNone := by
  unfold addSA
  rw [found]
  cases t.searchSA ma sa type with
  | none => rfl
  | some s => rfl

variable {f : SARecord → SARecord}

theorem searchMAR_modifySA :
    (t.modifySA ma sa f).searchMAR other = if ma = other then
      (t.searchMAR ma).map fun r => { r with inSAL := KeyList.modify (·.sa) sa f r.inSAL }
      else t.searchMAR other := by
  apply searchMAR_modifyMAR
  intro r
  rfl

theorem searchSA_modifySA (keeps : ∀ s, (f s).sa = s.sa) :
    (t.modifySA ma sa f).searchSA other source isIn =
      if ma = other ∧ sa = source then (t.searchSA ma sa isIn).map f
      else t.searchSA other source isIn := by
  unfold searchSA
  rw [searchMAR_modifySA]
  by_cases same : ma = other
  · rw [if_pos same, ← same]
    cases t.searchMAR ma with
    | none =>
        split
        · rfl
        · rfl
    | some r =>
        rw [Option.map_some, Option.bind_some, Option.bind_some]
        by_cases at_sa : sa = source
        · rw [if_pos ⟨rfl, at_sa⟩, ← at_sa]
          exact KeyList.find_modify_same fun s at_key => (keeps s).trans at_key
        · rw [if_neg fun both => at_sa both.2]
          exact KeyList.find_modify_ne (fun s at_key => (keeps s).trans at_key) at_sa
  · rw [if_neg same, if_neg fun both => same both.1]

theorem type_modifySA : ((t.modifySA ma sa f).searchMAR other).map (·.type) = (t.searchMAR other).map (·.type) := by
  rw [searchMAR_modifySA]
  split
  · rename_i same
    rw [← same, Option.map_map]
    rfl
  · rfl

theorem linkSA_ma : ((r.linkSA sa type).setNS).ma = r.ma := by
  rw [MARecord.setNS_ma]
  unfold MARecord.linkSA
  repeat' split
  all_goals rfl

theorem unlinkSA_ma : ((r.unlinkSA sa type).setNS).ma = r.ma := by
  rw [MARecord.setNS_ma]
  unfold MARecord.unlinkSA
  repeat' split
  all_goals rfl

theorem searchSA_addSA (found : t.searchMAR ma = some r) :
    (t.addSA ma sa isIn).2.searchSA other source isIn =
      if ma = other ∧ sa = source then some ((t.searchSA ma sa isIn).getD (.create sa mldMali))
      else t.searchSA other source isIn := by
  cases entry : t.searchSA ma sa isIn with
  | some s =>
      unfold addSA
      rw [found, entry]
      dsimp only
      split
      · rename_i both
        rw [← both.1, ← both.2, entry]
        rfl
      · rfl
  | none =>
      have added : (t.addSA ma sa isIn).2 = t.modifyMAR ma fun r => (r.linkSA sa isIn).setNS := by
        unfold addSA
        rw [found, entry]
      rw [added]
      unfold searchSA at entry ⊢
      rw [searchMAR_modifyMAR fun _ => linkSA_ma]
      by_cases same : ma = other
      · rw [if_pos same, ← same, found, Option.map_some, Option.bind_some, Option.bind_some,
          MARecord.sal_isIn, MARecord.setNS_inSAL]
        change KeyList.find _ source (SARecord.create sa mldMali :: r.inSAL) = _
        by_cases at_sa : sa = source
        · rw [if_pos ⟨rfl, at_sa⟩]
          exact KeyList.find_cons_pos at_sa
        · rw [if_neg fun both => at_sa both.2]
          exact KeyList.find_cons_neg at_sa
      · rw [if_neg same, if_neg fun both => same both.1]

theorem type_addSA : ((t.addSA ma sa type).2.searchMAR other).map (·.type) = (t.searchMAR other).map (·.type) := by
  unfold addSA
  split
  · rfl
  · rfl
  · rw [searchMAR_modifyMAR fun _ => linkSA_ma]
    split
    · rename_i same
      rw [← same, Option.map_map]
      congr 1
      funext r
      change (r.linkSA sa type).setNS.type = r.type
      rw [MARecord.setNS_type]
      unfold MARecord.linkSA
      repeat' split
      all_goals rfl
    · rfl

/-- The excluded sources, when an included one is changed or added -/
theorem searchSA_isEx_modifySA :
    (t.modifySA ma sa f).searchSA other source isEx = t.searchSA other source isEx := by
  unfold searchSA
  rw [searchMAR_modifySA]
  split
  · rename_i same
    rw [← same, Option.bind_map]
    rfl
  · rfl

theorem searchSA_isEx_addSA : (t.addSA ma sa isIn).2.searchSA other source isEx = t.searchSA other source isEx := by
  unfold addSA
  split
  · rfl
  · rfl
  · unfold searchSA
    rw [searchMAR_modifyMAR fun _ => linkSA_ma]
    split
    · rename_i same
      rw [← same, Option.bind_map]
      congr 1
      funext r
      change KeyList.find _ source (r.linkSA sa isIn).setNS.exSAL = _
      rw [MARecord.setNS_exSAL]
      rfl
    · rfl

theorem searchSA_delSA (distinct : ∀ r, t.searchMAR ma = some r → KeyList.Distinct (·.sa) r.inSAL) :
    (t.delSA ma sa isIn).2.searchSA other source isIn =
      if ma = other ∧ sa = source then none else t.searchSA other source isIn := by
  cases entry : t.searchSA ma sa isIn with
  | none =>
      unfold delSA
      rw [entry]
      dsimp only
      split
      · rename_i both
        rw [← both.1, ← both.2, entry]
      · rfl
  | some s =>
      have deleted : (t.delSA ma sa isIn).2 = t.modifyMAR ma fun r => (r.unlinkSA sa isIn).setNS := by
        unfold delSA
        rw [entry]
      rw [deleted]
      unfold searchSA
      rw [searchMAR_modifyMAR fun _ => unlinkSA_ma]
      by_cases same : ma = other
      · rw [if_pos same, ← same]
        cases found : t.searchMAR ma with
        | none =>
            split
            · rfl
            · rfl
        | some r =>
            rw [Option.map_some, Option.bind_some, Option.bind_some, MARecord.sal_isIn, MARecord.setNS_inSAL]
            change KeyList.find _ source (KeyList.remove (·.sa) sa r.inSAL) = _
            by_cases at_sa : sa = source
            · rw [if_pos ⟨rfl, at_sa⟩, ← at_sa]
              exact (distinct r found).find_remove
            · rw [if_neg fun both => at_sa both.2]
              exact KeyList.find_remove_ne at_sa
      · rw [if_neg same, if_neg fun both => same both.1]

theorem searchMAR_delMA (distinct : KeyList.Distinct (·.ma) t.mar) :
    (t.delMA ma).2.searchMAR other = if ma = other then none else t.searchMAR other := by
  cases entry : t.searchMAR ma with
  | none =>
      unfold delMA
      rw [entry]
      dsimp only
      split
      · rename_i same
        rw [← same, entry]
      · rfl
  | some r =>
      unfold delMA
      rw [entry]
      change KeyList.find _ other (KeyList.remove (·.ma) ma t.mar) = _
      split
      · rename_i same
        rw [← same]
        exact distinct.find_remove
      · rename_i differs
        exact KeyList.find_remove_ne differs

section Frame

variable (differs : ma ≠ other)

include differs

theorem searchMAR_modifySA_ne : (t.modifySA ma sa f).searchMAR other = t.searchMAR other := by
  rw [searchMAR_modifySA, if_neg differs]

theorem searchMAR_addSA_ne : (t.addSA ma sa type).2.searchMAR other = t.searchMAR other := by
  unfold addSA
  split
  · rfl
  · rfl
  · rw [searchMAR_modifyMAR fun _ => linkSA_ma, if_neg differs]

theorem searchMAR_delSA_ne : (t.delSA ma sa type).2.searchMAR other = t.searchMAR other := by
  unfold delSA
  split
  · rfl
  · rw [searchMAR_modifyMAR fun _ => unlinkSA_ma, if_neg differs]

end Frame

end MLDv2Record

end IPv6Suite
