import IPv6Suite.MLDv2Record

namespace IPv6Suite

open Lib RecordType

/-- A list of sources with its number and its size in a report -/
structure Counted (sal : List SARecord) (ns : BitVec 16) (size : BitVec 32) : Prop where
  distinct : KeyList.Distinct (·.sa) sal
  number : ns.toInt = sal.length
  sized : size.toInt = 20 + 16 * ns.toInt

namespace Counted

variable {sal : List SARecord} {ns : BitVec 16} {size : BitVec 32} {s : SARecord}

theorem nil : Counted [] 0 20 := ⟨List.nodup_nil, rfl, rfl⟩

theorem link (counted : Counted sal ns size) (absent : KeyList.find (·.sa) s.sa sal = none)
    (room : sal.length < 2 ^ 15 - 1) : Counted (s :: sal) (ns + 1) (size + 16) := by
  have number := counted.number
  have sized := counted.sized
  refine ⟨counted.distinct.cons absent, ?_, ?_⟩
  · rw [List.length_cons, BitVec.toInt_add]
    simp only [BitVec.toInt_ofNat, Int.bmod_def]
    omega
  · rw [BitVec.toInt_add, BitVec.toInt_add]
    simp only [BitVec.toInt_ofNat, Int.bmod_def]
    omega

theorem unlink {sa : Ipv6Addr} (counted : Counted sal ns size) (found : KeyList.find (·.sa) sa sal = some s) :
    Counted (KeyList.remove (·.sa) sa sal) (ns - 1) (size - 16) := by
  have number := counted.number
  have sized := counted.sized
  have shorter := KeyList.length_remove found
  have small : ns.toInt < 2 ^ 15 := BitVec.toInt_lt
  refine ⟨counted.distinct.remove, ?_, ?_⟩
  · rw [BitVec.toInt_sub]
    simp only [BitVec.toInt_ofNat, Int.bmod_def]
    omega
  · rw [BitVec.toInt_sub, BitVec.toInt_sub]
    simp only [BitVec.toInt_ofNat, Int.bmod_def]
    omega

end Counted

namespace MARecord

/-- The counters of a record are those of its lists. -/
structure Consistent (r : MARecord) : Prop where
  included : Counted r.inSAL r.inNS r.inSize
  excluded : Counted r.exSAL r.exNS r.exSize
  ns_isIn : r.type = isIn → r.ns = r.inNS
  ns_isEx : r.type = isEx → r.ns = r.exNS

namespace Consistent

variable {r : MARecord} {sa : Ipv6Addr} {type : RecordType}

theorem create {ma : Ipv6Addr} {ns : BitVec 16} (initial : type = isIn ∨ type = isEx → ns = 0) :
    (MARecord.create ma type ns).Consistent where
  included := Counted.nil
  excluded := Counted.nil
  ns_isIn included := initial (Or.inl included)
  ns_isEx excluded := initial (Or.inr excluded)

theorem setNS (included : Counted r.inSAL r.inNS r.inSize) (excluded : Counted r.exSAL r.exNS r.exSize) :
    r.setNS.Consistent := by
  unfold MARecord.setNS
  split
  · rename_i isIn
    refine ⟨included, excluded, fun _ => rfl, fun isEx => ?_⟩
    cases isIn.symm.trans isEx
  · rename_i other
    split
    · exact ⟨included, excluded, fun isIn => absurd isIn other, fun _ => rfl⟩
    · rename_i neither
      exact ⟨included, excluded, fun isIn => absurd isIn other, fun isEx => absurd isEx neither⟩

theorem linkSA (consistent : r.Consistent) (absent : KeyList.find (·.sa) sa (r.sal type) = none)
    (room : (r.sal type).length < 2 ^ 15 - 1) : (r.linkSA sa type).setNS.Consistent := by
  unfold MARecord.sal at absent room
  unfold MARecord.linkSA
  split
  · rename_i isIn
    rw [if_pos isIn] at absent room
    exact setNS (consistent.included.link absent room) consistent.excluded
  · rename_i other
    rw [if_neg other] at absent room
    split
    · rename_i isEx
      rw [if_pos isEx] at absent room
      exact setNS consistent.included (consistent.excluded.link absent room)
    · exact setNS consistent.included consistent.excluded

theorem unlinkSA {s : SARecord} (consistent : r.Consistent)
    (found : KeyList.find (·.sa) sa (r.sal type) = some s) : (r.unlinkSA sa type).setNS.Consistent := by
  unfold MARecord.sal at found
  unfold MARecord.unlinkSA
  split
  · rename_i isIn
    rw [if_pos isIn] at found
    exact setNS (consistent.included.unlink found) consistent.excluded
  · rename_i other
    rw [if_neg other] at found
    split
    · rename_i isEx
      rw [if_pos isEx] at found
      exact setNS consistent.included (consistent.excluded.unlink found)
    · exact setNS consistent.included consistent.excluded

theorem destroySAL (consistent : r.Consistent) (included : r.type = isIn → type = isIn ∨ r.inSAL = [])
    (excluded : r.type = isEx → type = isEx ∨ r.exSAL = []) : (r.destroySAL type).Consistent := by
  have empty {sal : List SARecord} {ns : BitVec 16} {size : BitVec 32} (counted : Counted sal ns size)
      (none : sal = []) : (0 : BitVec 16) = ns := by
    apply BitVec.eq_of_toInt_eq
    rw [counted.number, none]
    rfl
  unfold MARecord.destroySAL
  dsimp only
  split
  · refine ⟨Counted.nil, consistent.excluded, fun _ => rfl, fun isEx => ?_⟩
    rename_i isIn
    rcases excluded isEx with same | none
    · cases isIn.symm.trans same
    · exact empty consistent.excluded none
  · rename_i other
    split
    · refine ⟨consistent.included, Counted.nil, fun isIn => ?_, fun _ => rfl⟩
      exact empty consistent.included ((included isIn).resolve_left other)
    · rename_i neither
      refine ⟨consistent.included, consistent.excluded, fun isIn => ?_, fun isEx => ?_⟩
      · exact empty consistent.included ((included isIn).resolve_left other)
      · exact empty consistent.excluded ((excluded isEx).resolve_left neither)

end Consistent

end MARecord

namespace MLDv2Record

/-- The counters of a listener table are those of its lists, and no group occurs twice. -/
structure Consistent (t : MLDv2Record) : Prop where
  distinct : KeyList.Distinct (·.ma) t.mar
  nmar : t.nmar.toInt = t.mar.length
  records : ∀ r ∈ t.mar, r.Consistent

/-- A call leaves the counters right: a new record finds its number of sources 0 if that counts, a
change of the type finds the number of the other list, only the list of the type is destroyed unless
the other one is empty, and only an empty table is destroyed. The lists stay as long as can be counted. -/
def Counts (t : MLDv2Record) : RecordCall → Prop
  | .addMA ma type ns => t.searchMAR ma = none →
      t.mar.length < 2 ^ 15 - 1 ∧ (type = isIn ∨ type = isEx → ns = 0)
  | .setMAtype ma type => ∀ r ∈ t.searchMAR ma,
      (type = isIn → r.ns = r.inNS) ∧ (type = isEx → r.ns = r.exNS)
  | .addSA ma _ type => ∀ r ∈ t.searchMAR ma, (r.sal type).length < 2 ^ 15 - 1
  | .destroySAL ma type => ∀ r ∈ t.searchMAR ma, (r.type = isIn → type = isIn ∨ r.inSAL = []) ∧
      (r.type = isEx → type = isEx ∨ r.exSAL = [])
  | .destroyMAL => t.mar = []
  | _ => True

instance countsDecidable (t : MLDv2Record) : (c : RecordCall) → Decidable (t.Counts c)
  | .addMA ma type ns => inferInstanceAs (Decidable (t.searchMAR ma = none →
      t.mar.length < 2 ^ 15 - 1 ∧ (type = isIn ∨ type = isEx → ns = 0)))
  | .setMAtype ma type => inferInstanceAs (Decidable (∀ r ∈ t.searchMAR ma,
      (type = isIn → r.ns = r.inNS) ∧ (type = isEx → r.ns = r.exNS)))
  | .addSA ma _ type => inferInstanceAs (Decidable (∀ r ∈ t.searchMAR ma,
      (r.sal type).length < 2 ^ 15 - 1))
  | .destroySAL ma type => inferInstanceAs (Decidable (∀ r ∈ t.searchMAR ma,
      (r.type = isIn → type = isIn ∨ r.inSAL = []) ∧ (r.type = isEx → type = isEx ∨ r.exSAL = [])))
  | .destroyMAL => inferInstanceAs (Decidable (t.mar = []))
  | .delMA _ => isTrue trivial
  | .delSA .. => isTrue trivial

variable {t : MLDv2Record} {ma sa : Ipv6Addr} {type : RecordType}

namespace Consistent

theorem create : MLDv2Record.create.Consistent := ⟨List.nodup_nil, rfl, nofun⟩

theorem modifyMAR {f : MARecord → MARecord} (consistent : t.Consistent) (keeps : ∀ r, (f r).ma = r.ma)
    (modified : ∀ r, t.searchMAR ma = some r → r.Consistent → (f r).Consistent) :
    (t.modifyMAR ma f).Consistent where
  distinct := consistent.distinct.modify fun r same => (keeps r).trans same
  nmar := by
    change t.nmar.toInt = (KeyList.modify _ ma f t.mar).length
    rw [KeyList.length_modify]
    exact consistent.nmar
  records r member := by
    rcases KeyList.mem_modify member with before | ⟨old, found, rfl⟩
    · exact consistent.records r before
    · exact modified old found (consistent.records old (KeyList.mem_of_find found))

theorem addMA {ns : BitVec 16} (consistent : t.Consistent) (counts : t.Counts (.addMA ma type ns)) :
    (t.addMA ma type ns).2.Consistent := by
  unfold MLDv2Record.addMA
  split
  · rename_i absent
    obtain ⟨room, initial⟩ := counts absent
    have number := consistent.nmar
    refine ⟨consistent.distinct.cons absent, ?_, ?_⟩
    · rw [List.length_cons, BitVec.toInt_add]
      simp only [BitVec.toInt_ofNat, Int.bmod_def]
      omega
    · intro r member
      rcases List.mem_cons.mp member with rfl | before
      · exact MARecord.Consistent.create initial
      · exact consistent.records r before
  · exact consistent

theorem delMA (consistent : t.Consistent) : (t.delMA ma).2.Consistent := by
  unfold MLDv2Record.delMA
  split
  · exact consistent
  · rename_i r found
    have number := consistent.nmar
    have small : t.nmar.toInt < 2 ^ 15 := BitVec.toInt_lt
    have shorter := KeyList.length_remove found
    refine ⟨consistent.distinct.remove, ?_, ?_⟩
    · rw [BitVec.toInt_sub]
      simp only [BitVec.toInt_ofNat, Int.bmod_def]
      omega
    · exact fun r member => consistent.records r (KeyList.mem_remove member)

theorem setMAtype (consistent : t.Consistent) (counts : t.Counts (.setMAtype ma type)) :
    (t.setMAtype ma type).2.Consistent := by
  unfold MLDv2Record.setMAtype
  split
  · exact consistent
  · apply consistent.modifyMAR
    · exact fun _ => rfl
    · intro r found before
      obtain ⟨included, excluded⟩ := counts r found
      exact ⟨before.included, before.excluded, included, excluded⟩

theorem addSA (consistent : t.Consistent) (counts : t.Counts (.addSA ma sa type)) :
    (t.addSA ma sa type).2.Consistent := by
  unfold MLDv2Record.addSA
  split
  · exact consistent
  · exact consistent
  · rename_i r found absent
    apply consistent.modifyMAR
    · intro r
      unfold MARecord.setNS MARecord.linkSA
      repeat' split
      all_goals rfl
    · intro same member before
      cases found.symm.trans member
      rw [searchSA, found, Option.bind_some] at absent
      exact before.linkSA absent (counts r found)

theorem delSA (consistent : t.Consistent) : (t.delSA ma sa type).2.Consistent := by
  unfold MLDv2Record.delSA
  split
  · exact consistent
  · rename_i s found
    apply consistent.modifyMAR
    · intro r
      unfold MARecord.setNS MARecord.unlinkSA
      repeat' split
      all_goals rfl
    · intro r member before
      rw [searchSA, member, Option.bind_some] at found
      exact before.unlinkSA found

theorem destroySAL (consistent : t.Consistent) (counts : t.Counts (.destroySAL ma type)) :
    (t.modifyMAR ma (·.destroySAL type)).Consistent := by
  apply consistent.modifyMAR
  · intro r
    unfold MARecord.destroySAL
    dsimp only
    repeat' split
    all_goals rfl
  · intro r found before
    obtain ⟨included, excluded⟩ := counts r found
    exact before.destroySAL included excluded

theorem step {c : RecordCall} {t' : MLDv2Record} (consistent : t.Consistent) (counts : t.Counts c)
    (steps : t.step c = .ok t') : t'.Consistent := by
  cases steps
  cases c with
  | addMA ma type ns => exact consistent.addMA counts
  | delMA ma => exact consistent.delMA
  | setMAtype ma type => exact consistent.setMAtype counts
  | addSA ma sa type => exact consistent.addSA counts
  | delSA ma sa type => exact consistent.delSA
  | destroySAL ma type => exact consistent.destroySAL counts
  | destroyMAL =>
      change t.mar = [] at counts
      change MLDv2Record.Consistent { t with mar := [] }
      rw [← counts]
      exact consistent

end Consistent

end MLDv2Record

/-- In a sequence of calls that leave the counters right, they are those of the lists. -/
theorem record_counters {t : MLDv2Record} {cs : List RecordCall}
    (runs : Runs MLDv2Record.step MLDv2Record.Counts MLDv2Record.create cs t) : t.Consistent :=
  runs.invariant MLDv2Record.Consistent (fun _ _ _ => MLDv2Record.Consistent.step)
    MLDv2Record.Consistent.create

namespace MLDv2Record

def exampleCalls : List RecordCall :=
  [.addMA ⟨0xff3e0000, 0, 0, 1⟩ isIn 0, .addSA ⟨0xff3e0000, 0, 0, 1⟩ ⟨9, 0, 0, 9⟩ isIn,
    .addSA ⟨0xff3e0000, 0, 0, 1⟩ ⟨9, 0, 0, 8⟩ isIn, .delSA ⟨0xff3e0000, 0, 0, 1⟩ ⟨9, 0, 0, 9⟩ isIn]

theorem record_counters_example : ∃ t, Runs MLDv2Record.step MLDv2Record.Counts MLDv2Record.create
    exampleCalls t ∧ t.mar.map (·.ns) = [1] ∧ t.Consistent := by
  have checked : (run (fun t c => Exec.assert (t.Counts c) >>= fun _ => t.step c) create
      exampleCalls).map (fun t => t.mar.map (·.ns)) = .ok [1] := by decide +kernel
  obtain ⟨t, ends, numbers⟩ := map_eq_ok checked
  have runs := Runs.of_checked ends
  exact ⟨t, runs, numbers, record_counters runs⟩

/-- The number of records is kept when they are destroyed. -/
theorem record_counters_fails :
    ∃ t, run MLDv2Record.step create [.addMA ⟨0xff3e0000, 0, 0, 1⟩ isIn 0, .destroyMAL] = .ok t ∧
      t.nmar = 1 ∧ t.mar = [] ∧ ¬ t.Consistent :=
  ⟨_, rfl, rfl, rfl, fun consistent => absurd consistent.nmar (by decide)⟩

end MLDv2Record

end IPv6Suite
