import IPv6Suite.ListenerTable
import IPv6Suite.ReportEncoding

namespace IPv6Suite

open Lib RecordType

/-- A current-state or ALLOW record -/
def ReportedRecord.Listens (r : ReportedRecord) : Prop :=
  r.header.type = isIn ∨ r.header.type = isEx ∨ r.header.type = allow
deriving Decidable

namespace MLDRouter

variable {rt rt' : MLDRouter} {msg : MLDv2Report} {srcAddr : Ipv6Addr} {ns : BitVec 16}

/-- Whether the sources of a record of a type are read for a group. They depend on the type of the
record that the router has. -/
def reads (rt : MLDRouter) (ma : Ipv6Addr) (type : RecordType) : Bool :=
  match rt.lsTable.searchMAR ma with
  | some r => r.type = isIn ∧ (type = isIn ∨ type = allow ∨ type = block) ∨
      r.type = isEx ∧ (type = isIn ∨ type = allow)
  | none => type = isIn

def readSources (rt : MLDRouter) (msg : MLDv2Report) (offset : Nat) (header : MARHeader) :
    Exec (List Ipv6Addr) :=
  if rt.reads header.ma header.type then msg.getSources offset header.ns.toInt.toNat else .ok []

/-- What a record does with the sources that are read of it -/
def process (srcAddr : Ipv6Addr) (ns : BitVec 16) (rt : MLDRouter) (header : MARHeader)
    (sas : List Ipv6Addr) : MLDRouter :=
  match rt.lsTable.searchMAR header.ma with
  | some r =>
      if r.type = isIn then
        if header.type = isIn ∨ header.type = allow then sas.foldl (·.includeSA srcAddr header.ma ·) rt
        else if header.type = block then rt.blockSources srcAddr header.ma ns sas
        else rt
      else if r.type = isEx then
        if header.type = isIn ∨ header.type = allow then sas.foldl (·.includeEx srcAddr header.ma ·) rt
        else if header.type = isEx ∨ header.type = toEx then
          { rt with lsTable := rt.lsTable.modifyMAR header.ma fun r => { r with filterTimer := mldMali } }
        else rt
      else rt
  | none =>
      let rt := { rt with lsTable := (rt.lsTable.addMA header.ma header.type ns).2 }
      if header.type = isIn then sas.foldl (·.includeNew srcAddr header.ma ·) rt else rt

theorem reads_isIn {ma : Ipv6Addr} {type : RecordType} {r : MARecord}
    (found : rt.lsTable.searchMAR ma = some r) (included : r.type = isIn) :
    rt.reads ma type = decide (type = isIn ∨ type = allow ∨ type = block) := by
  have other : isIn ≠ isEx := by decide
  unfold reads
  rw [found]
  simp only [included, other, true_and, false_and, or_false]

theorem reads_not_isIn {ma : Ipv6Addr} {type : RecordType} {r : MARecord}
    (found : rt.lsTable.searchMAR ma = some r) (included : r.type ≠ isIn) :
    rt.reads ma type = decide (r.type = isEx ∧ (type = isIn ∨ type = allow)) := by
  unfold reads
  rw [found]
  simp only [included, false_and, false_or]

theorem reads_absent {ma : Ipv6Addr} {type : RecordType} (absent : rt.lsTable.searchMAR ma = none) :
    rt.reads ma type = decide (type = isIn) := by
  unfold reads
  rw [absent]

theorem parseRecord_eq {offset : Nat} : rt.parseRecord msg srcAddr ns offset = do
    let header ← msg.getOpt offset 20
    let buf := MARHeader.ofBytes header
    let sas ← rt.readSources msg (offset + 20) buf
    return (rt.process srcAddr ns buf sas, offset + 20 + 16 * sas.length) := by
  unfold parseRecord
  congr 1
  funext header
  unfold process readSources
  dsimp only
  generalize MARHeader.ofBytes header = buf
  cases entry : rt.lsTable.searchMAR buf.ma with
  | some r =>
      dsimp only
      by_cases included : r.type = isIn
      · rw [reads_isIn entry included]
        simp only [if_pos included]
        by_cases adds : buf.type = isIn ∨ buf.type = allow
        · have read : buf.type = isIn ∨ buf.type = allow ∨ buf.type = block := adds.imp_right Or.inl
          simp only [if_pos adds, if_pos (decide_eq_true read)]
        · simp only [if_neg adds]
          by_cases blocks : buf.type = block
          · have read : buf.type = isIn ∨ buf.type = allow ∨ buf.type = block := Or.inr (Or.inr blocks)
            simp only [if_pos blocks, if_pos (decide_eq_true read)]
          · have unread : ¬ (buf.type = isIn ∨ buf.type = allow ∨ buf.type = block) := by
              rw [← or_assoc]
              exact not_or.mpr ⟨adds, blocks⟩
            simp only [if_neg blocks, if_neg (ne_true_of_eq_false (decide_eq_false unread))]
            rfl
      · rw [reads_not_isIn entry included]
        simp only [if_neg included]
        by_cases excluded : r.type = isEx
        · simp only [if_pos excluded]
          by_cases adds : buf.type = isIn ∨ buf.type = allow
          · simp only [if_pos adds, if_pos (decide_eq_true (And.intro excluded adds))]
          · have unread : ¬ (r.type = isEx ∧ (buf.type = isIn ∨ buf.type = allow)) := fun both => adds both.2
            simp only [if_neg adds, if_neg (ne_true_of_eq_false (decide_eq_false unread)), ok_bind]
            split
            · rfl
            · rfl
        · have unread : ¬ (r.type = isEx ∧ (buf.type = isIn ∨ buf.type = allow)) := fun both => excluded both.1
          simp only [if_neg excluded, if_neg (ne_true_of_eq_false (decide_eq_false unread))]
          rfl
  | none =>
      dsimp only
      rw [reads_absent entry]
      by_cases included : buf.type = isIn
      · simp only [if_pos included, if_pos (decide_eq_true included)]
      · simp only [if_neg included, if_neg (ne_true_of_eq_false (decide_eq_false included))]
        rfl

section Frame

variable {ma sa other : Ipv6Addr} (differs : ma ≠ other)

include differs

theorem searchMAR_includeSA : (rt.includeSA srcAddr ma sa).lsTable.searchMAR other = rt.lsTable.searchMAR other := by
  unfold includeSA
  split
  · exact MLDv2Record.searchMAR_modifySA_ne differs
  · exact (MLDv2Record.searchMAR_modifySA_ne differs).trans (MLDv2Record.searchMAR_addSA_ne differs)

theorem searchMAR_includeEx : (rt.includeEx srcAddr ma sa).lsTable.searchMAR other = rt.lsTable.searchMAR other := by
  unfold includeEx
  dsimp only
  split
  · exact MLDv2Record.searchMAR_delSA_ne differs
  · exact ((MLDv2Record.searchMAR_modifySA_ne differs).trans (MLDv2Record.searchMAR_addSA_ne differs)).trans
      (MLDv2Record.searchMAR_delSA_ne differs)

theorem searchMAR_includeNew : (rt.includeNew srcAddr ma sa).lsTable.searchMAR other = rt.lsTable.searchMAR other :=
  (MLDv2Record.searchMAR_modifySA_ne differs).trans (MLDv2Record.searchMAR_addSA_ne differs)

theorem searchMAR_blockSA {bBlock : Bool} :
    (blockSA srcAddr ma ns (rt, bBlock) sa).1.lsTable.searchMAR other = rt.lsTable.searchMAR other := by
  unfold blockSA
  dsimp only
  split
  · rfl
  · split
    · exact (MLDv2Record.searchMAR_modifySA_ne differs).trans (MLDv2Record.searchMAR_modifySA_ne differs)
    · exact MLDv2Record.searchMAR_modifySA_ne differs

theorem searchMAR_blockSources {sas : List Ipv6Addr} :
    (rt.blockSources srcAddr ma ns sas).lsTable.searchMAR other = rt.lsTable.searchMAR other := by
  have folded (state : MLDRouter × Bool) :
      (sas.foldl (blockSA srcAddr ma ns) state).1.lsTable.searchMAR other = state.1.lsTable.searchMAR other := by
    induction sas generalizing state with
    | nil => rfl
    | cons sa rest ih => exact (ih _).trans (searchMAR_blockSA differs)
  unfold blockSources
  dsimp only
  split
  · exact folded _
  · exact folded _

end Frame

theorem searchMAR_foldl {f : MLDRouter → Ipv6Addr → MLDRouter} {sas : List Ipv6Addr} {other : Ipv6Addr}
    (keeps : ∀ rt sa, (f rt sa).lsTable.searchMAR other = rt.lsTable.searchMAR other) :
    (sas.foldl f rt).lsTable.searchMAR other = rt.lsTable.searchMAR other := by
  induction sas generalizing rt with
  | nil => rfl
  | cons sa rest ih => exact ih.trans (keeps rt sa)

theorem searchMAR_process {header : MARHeader} {sas : List Ipv6Addr} {other : Ipv6Addr}
    (differs : header.ma ≠ other) :
    (rt.process srcAddr ns header sas).lsTable.searchMAR other = rt.lsTable.searchMAR other := by
  unfold process
  split
  · split
    · split
      · exact searchMAR_foldl fun _ _ => searchMAR_includeSA differs
      · split
        · exact searchMAR_blockSources differs
        · rfl
    · split
      · split
        · exact searchMAR_foldl fun _ _ => searchMAR_includeEx differs
        · split
          · apply (MLDv2Record.searchMAR_modifyMAR _).trans (if_neg differs)
            exact fun _ => rfl
          · rfl
      · rfl
  · rename_i absent
    have added : (rt.lsTable.addMA header.ma header.type ns).2.searchMAR other = rt.lsTable.searchMAR other :=
      (MLDv2Record.searchMAR_addMA absent).trans (if_neg differs)
    dsimp only
    split
    · exact (searchMAR_foldl fun _ _ => searchMAR_includeNew differs).trans added
    · exact added

/-- As many bytes are read of a record as are written. -/
def FullyRead (rt : MLDRouter) (r : ReportedRecord) : Prop :=
  if rt.reads r.header.ma r.header.type then r.header.ns.toInt.toNat = r.sources.length else r.sources = []
deriving Decidable

theorem FullyRead.sources {r : ReportedRecord} (fully : create.FullyRead r) (other : r.header.type ≠ isIn) :
    r.sources = [] := by
  unfold FullyRead at fully
  rwa [reads_absent rfl, if_neg (ne_true_of_eq_false (decide_eq_false other))] at fully

theorem FullyRead.process {header : MARHeader} {sas : List Ipv6Addr} {r : ReportedRecord}
    (differs : header.ma ≠ r.header.ma) : (rt.process srcAddr ns header sas).FullyRead r ↔ rt.FullyRead r := by
  unfold FullyRead reads
  rw [searchMAR_process differs]

section Record

variable {r : ReportedRecord} {front back : Bytes}

theorem getOpt_header (opt : msg.opt = front ++ r.bytes ++ back) :
    msg.getOpt front.length 20 = .ok r.header.bytes := by
  have whole : msg.opt = front ++ r.header.bytes ++ (sourceBytes r.sources ++ back) := by
    rw [opt, ReportedRecord.bytes]
    simp only [List.append_assoc]
  unfold MLDv2Report.getOpt
  rw [whole]
  exact @Bytes.read_append front r.header.bytes _

theorem getSources_sources (opt : msg.opt = front ++ r.bytes ++ back) :
    msg.getSources (front.length + 20) r.sources.length = .ok r.sources := by
  have whole : msg = ⟨msg.noMAR, front ++ r.header.bytes ++ sourceBytes r.sources ++ back⟩ := by
    have assoc : front ++ r.header.bytes ++ sourceBytes r.sources ++ back = msg.opt := by
      rw [opt, ReportedRecord.bytes]
      simp only [List.append_assoc]
    rw [assoc]
  have behind : front.length + 20 = (front ++ r.header.bytes).length := by
    rw [List.length_append, MARHeader.length_bytes]
  rw [whole, behind]
  exact MLDv2Report.getSources_eq

theorem parseRecord_fullyRead (opt : msg.opt = front ++ r.bytes ++ back) (fully : rt.FullyRead r) :
    rt.parseRecord msg srcAddr ns front.length =
      .ok (rt.process srcAddr ns r.header r.sources, front.length + r.size) := by
  have sources : rt.readSources msg (front.length + 20) r.header = .ok r.sources := by
    unfold FullyRead at fully
    unfold readSources
    split
    · rename_i read
      rw [if_pos read] at fully
      rw [fully, getSources_sources opt]
    · rename_i unread
      rw [if_neg unread] at fully
      rw [fully]
  rw [parseRecord_eq, getOpt_header opt, ok_bind]
  dsimp only
  rw [MARHeader.ofBytes_bytes, sources, ok_bind, Nat.add_assoc]
  rfl

theorem fullyRead_of_parseRecord (opt : msg.opt = front ++ r.bytes ++ back)
    (parses : rt.parseRecord msg srcAddr ns front.length = .ok (rt', front.length + r.size)) : rt.FullyRead r := by
  rw [parseRecord_eq, getOpt_header opt, ok_bind] at parses
  dsimp only at parses
  rw [MARHeader.ofBytes_bytes] at parses
  obtain ⟨sas, reads, ends⟩ := bind_eq_ok.mp parses
  have size : front.length + 20 + 16 * sas.length = front.length + (20 + 16 * r.sources.length) :=
    congrArg Prod.snd (Except.ok.inj ends)
  have length : sas.length = r.sources.length := by omega
  unfold FullyRead
  unfold readSources at reads
  split at reads
  · rename_i read
    rw [if_pos read, ← length]
    exact (MLDv2Report.length_getSources reads).symm
  · rename_i unread
    cases reads
    rw [if_neg unread]
    exact List.eq_nil_of_length_eq_zero length.symm

end Record

def processRecords (srcAddr : Ipv6Addr) (ns : BitVec 16) (rt : MLDRouter) (rs : List ReportedRecord) :
    MLDRouter :=
  rs.foldl (fun rt r => rt.process srcAddr ns r.header r.sources) rt

def Groups (rs : List ReportedRecord) : Prop := (rs.map (·.header.ma)).Nodup

section Records

variable {rs : List ReportedRecord} {front back : Bytes}

theorem FullyRead.rest {r : ReportedRecord} (groups : Groups (r :: rs)) :
    (∀ next ∈ rs, (rt.process srcAddr ns r.header r.sources).FullyRead next) ↔ ∀ next ∈ rs, rt.FullyRead next := by
  obtain ⟨absent, _⟩ := List.nodup_cons.mp groups
  have differs {next : ReportedRecord} (member : next ∈ rs) : r.header.ma ≠ next.header.ma := by
    intro same
    exact absent (List.mem_map.mpr ⟨next, member, same.symm⟩)
  constructor
  · exact fun fully next member => (FullyRead.process (differs member)).mp (fully next member)
  · exact fun fully next member => (FullyRead.process (differs member)).mpr (fully next member)

theorem parseRecords_fullyRead (opt : msg.opt = front ++ recordBytes rs ++ back) (groups : Groups rs)
    (fully : ∀ r ∈ rs, rt.FullyRead r) {k : Nat} (within : k ≤ rs.length) :
    parseRecords msg srcAddr ns k rt front.length =
      .ok (rt.processRecords srcAddr ns (rs.take k), front.length + writtenSize (rs.take k)) := by
  induction rs generalizing rt front k with
  | nil =>
      cases Nat.le_zero.mp within
      rfl
  | cons r rest ih =>
      cases k with
      | zero => rfl
      | succ k =>
          have first : msg.opt = front ++ r.bytes ++ (recordBytes rest ++ back) := by
            rw [opt]
            change front ++ (r.bytes ++ recordBytes rest) ++ back = _
            simp only [List.append_assoc]
          have behind : (front ++ r.bytes).length = front.length + r.size := by
            rw [List.length_append, r.length_bytes]
          have later := @ih (rt.process srcAddr ns r.header r.sources) (front ++ r.bytes)
            (first.trans (List.append_assoc ..).symm) (List.nodup_cons.mp groups).2
            ((FullyRead.rest groups).mpr fun next member => fully next (List.mem_cons_of_mem r member)) k
            (Nat.le_of_succ_le_succ within)
          unfold parseRecords
          rw [parseRecord_fullyRead first (fully r List.mem_cons_self), ok_bind]
          dsimp only
          rw [← behind, later, behind, Nat.add_assoc]
          rfl

theorem fullyRead_of_parseRecords (opt : msg.opt = front ++ recordBytes rs ++ back) (groups : Groups rs)
    (parses : ∀ k ≤ rs.length, ∃ rt', parseRecords msg srcAddr ns k rt front.length =
      .ok (rt', front.length + writtenSize (rs.take k))) : ∀ r ∈ rs, rt.FullyRead r := by
  induction rs generalizing rt front with
  | nil => nofun
  | cons r rest ih =>
      have first : msg.opt = front ++ r.bytes ++ (recordBytes rest ++ back) := by
        rw [opt]
        change front ++ (r.bytes ++ recordBytes rest) ++ back = _
        simp only [List.append_assoc]
      have behind : (front ++ r.bytes).length = front.length + r.size := by
        rw [List.length_append, r.length_bytes]
      have fully : rt.FullyRead r := by
        obtain ⟨rt', parsed⟩ := parses 1 (Nat.succ_le_succ (Nat.zero_le _))
        obtain ⟨⟨one, offset⟩, parses_one, ends⟩ := bind_eq_ok.mp parsed
        cases ends
        exact fullyRead_of_parseRecord first parses_one
      have later := @ih (rt.process srcAddr ns r.header r.sources) (front ++ r.bytes)
        (first.trans (List.append_assoc ..).symm) (List.nodup_cons.mp groups).2 (by
          intro k within
          obtain ⟨rt', parsed⟩ := parses (k + 1) (Nat.succ_le_succ within)
          unfold parseRecords at parsed
          rw [parseRecord_fullyRead first fully, ok_bind] at parsed
          refine ⟨rt', ?_⟩
          rw [behind, Nat.add_assoc]
          exact parsed)
      intro next member
      rcases List.mem_cons.mp member with rfl | behind
      · exact fully
      · exact (FullyRead.rest groups).mp later next behind

end Records

/-- A source that the router has for a group, included or excluded -/
def Knows (rt : MLDRouter) (ma sa : Ipv6Addr) : Prop :=
  (rt.lsTable.searchSA ma sa isIn).isSome ∨ (rt.lsTable.searchSA ma sa isEx).isSome

theorem searchMAR_includeNew_isSome {ma sa : Ipv6Addr} (found : (rt.lsTable.searchMAR ma).isSome) :
    ((rt.includeNew srcAddr ma sa).lsTable.searchMAR ma).isSome := by
  have same : ((rt.includeNew srcAddr ma sa).lsTable.searchMAR ma).map (·.type) =
      (rt.lsTable.searchMAR ma).map (·.type) :=
    MLDv2Record.type_modifySA.trans MLDv2Record.type_addSA
  rw [← Option.isSome_map (f := MARecord.type), same, Option.isSome_map]
  exact found

theorem knows_includeNew {ma sa source : Ipv6Addr} (found : (rt.lsTable.searchMAR ma).isSome) :
    (rt.includeNew srcAddr ma sa).Knows ma source ↔ source = sa ∨ rt.Knows ma source := by
  obtain ⟨r, entry⟩ := Option.isSome_iff_exists.mp found
  unfold Knows includeNew
  dsimp only
  rw [MLDv2Record.searchSA_isEx_modifySA, MLDv2Record.searchSA_isEx_addSA,
    MLDv2Record.searchSA_modifySA fun _ => SARecord.listen_sa, MLDv2Record.searchSA_addSA entry,
    MLDv2Record.searchSA_addSA entry]
  by_cases same : sa = source
  · rw [if_pos ⟨rfl, same⟩, if_pos ⟨rfl, rfl⟩]
    exact ⟨fun _ => Or.inl same.symm, fun _ => Or.inl rfl⟩
  · rw [if_neg fun both => same both.2, if_neg fun both => same both.2]
    exact (or_iff_right fun at_sa => same at_sa.symm).symm

/-- What an IS_IN record for a new group leaves: its sources -/
theorem knows_foldl_includeNew {ma : Ipv6Addr} {sas : List Ipv6Addr} (found : (rt.lsTable.searchMAR ma).isSome) :
    ((sas.foldl (·.includeNew srcAddr ma ·) rt).lsTable.searchMAR ma).isSome ∧
      ∀ source, (sas.foldl (·.includeNew srcAddr ma ·) rt).Knows ma source ↔ source ∈ sas ∨ rt.Knows ma source := by
  induction sas generalizing rt with
  | nil => exact ⟨found, fun source => (or_iff_right List.not_mem_nil).symm⟩
  | cons sa rest ih =>
      obtain ⟨still, known⟩ := @ih (rt.includeNew srcAddr ma sa) (searchMAR_includeNew_isSome found)
      refine ⟨still, fun source => ?_⟩
      calc ((sa :: rest).foldl (·.includeNew srcAddr ma ·) rt).Knows ma source
          ↔ source ∈ rest ∨ (rt.includeNew srcAddr ma sa).Knows ma source := known source
        _ ↔ source ∈ rest ∨ source = sa ∨ rt.Knows ma source := by rw [knows_includeNew found]
        _ ↔ source ∈ sa :: rest ∨ rt.Knows ma source := by
          rw [List.mem_cons]
          tauto

/-- A record for a new group leaves the group, and its sources if it is IS_IN. -/
theorem process_absent {header : MARHeader} {sas : List Ipv6Addr}
    (absent : rt.lsTable.searchMAR header.ma = none) (fully : header.type ≠ isIn → sas = []) :
    ((rt.process srcAddr ns header sas).lsTable.searchMAR header.ma).isSome ∧
      ∀ source, (rt.process srcAddr ns header sas).Knows header.ma source ↔ source ∈ sas := by
  let added : MLDRouter := { rt with lsTable := (rt.lsTable.addMA header.ma header.type ns).2 }
  have entry : added.lsTable.searchMAR header.ma = some (.create header.ma header.type ns) :=
    (MLDv2Record.searchMAR_addMA absent).trans (if_pos rfl)
  have found : (added.lsTable.searchMAR header.ma).isSome := by
    rw [entry]
    rfl
  have unknown (source : Ipv6Addr) : ¬ added.Knows header.ma source := by
    unfold Knows MLDv2Record.searchSA
    rw [entry]
    exact not_or.mpr ⟨nofun, nofun⟩
  have processed : rt.process srcAddr ns header sas =
      if header.type = isIn then sas.foldl (·.includeNew srcAddr header.ma ·) added else added := by
    unfold process
    rw [absent]
  rw [processed]
  split
  · refine ⟨(knows_foldl_includeNew found).1, fun source => ?_⟩
    exact ((knows_foldl_includeNew found).2 source).trans (or_iff_left (unknown source))
  · rename_i excluded
    refine ⟨found, fun source => iff_of_false (unknown source) ?_⟩
    rw [fully excluded]
    exact List.not_mem_nil

theorem knows_congr {rt rt' : MLDRouter} {ma source : Ipv6Addr}
    (same : rt'.lsTable.searchMAR ma = rt.lsTable.searchMAR ma) : rt'.Knows ma source ↔ rt.Knows ma source := by
  unfold Knows
  rw [MLDv2Record.searchSA_congr same, MLDv2Record.searchSA_congr same]

theorem processRecords_absent {rs : List ReportedRecord} (groups : Groups rs)
    (absent : ∀ r ∈ rs, rt.lsTable.searchMAR r.header.ma = none)
    (fully : ∀ r ∈ rs, r.header.type ≠ isIn → r.sources = []) (ma : Ipv6Addr) :
    (((rt.processRecords srcAddr ns rs).lsTable.searchMAR ma).isSome ↔
      (rt.lsTable.searchMAR ma).isSome ∨ ∃ r ∈ rs, r.header.ma = ma) ∧
    ∀ source, (rt.processRecords srcAddr ns rs).Knows ma source ↔
      rt.Knows ma source ∨ ∃ r ∈ rs, r.header.ma = ma ∧ source ∈ r.sources := by
  induction rs generalizing rt with
  | nil =>
      refine ⟨(or_iff_left ?_).symm, fun source => (or_iff_left ?_).symm⟩
      · rintro ⟨r, member, _⟩
        cases member
      · rintro ⟨r, member, _⟩
        cases member
  | cons r rest ih =>
      obtain ⟨alone, groups⟩ := List.nodup_cons.mp groups
      have differs {next : ReportedRecord} (member : next ∈ rest) : r.header.ma ≠ next.header.ma := by
        intro same
        exact alone (List.mem_map.mpr ⟨next, member, same.symm⟩)
      have at_r := absent r List.mem_cons_self
      obtain ⟨found, known⟩ := @process_absent rt srcAddr ns r.header r.sources at_r (fully r List.mem_cons_self)
      obtain ⟨later, later_known⟩ := @ih (rt.process srcAddr ns r.header r.sources) groups
        (fun next member => (searchMAR_process (differs member)).trans
          (absent next (List.mem_cons_of_mem r member)))
        (fun next member => fully next (List.mem_cons_of_mem r member))
      have first (P : ReportedRecord → Prop) : (∃ next ∈ r :: rest, next.header.ma = ma ∧ P next) ↔
          (r.header.ma = ma ∧ P r) ∨ ∃ next ∈ rest, next.header.ma = ma ∧ P next := List.exists_mem_cons_iff ..
      by_cases same : r.header.ma = ma
      · subst same
        have unknown (source : Ipv6Addr) : ¬ rt.Knows r.header.ma source := by
          unfold Knows MLDv2Record.searchSA
          rw [at_r]
          exact not_or.mpr ⟨nofun, nofun⟩
        refine ⟨iff_of_true (later.mpr (Or.inl found)) (Or.inr ⟨r, List.mem_cons_self, rfl⟩), fun source => ?_⟩
        rw [first, or_iff_right (unknown source), and_iff_right rfl, ← known source]
        exact later_known source
      · have kept := @searchMAR_process rt srcAddr ns r.header r.sources ma same
        refine ⟨?_, fun source => ?_⟩
        · rw [List.exists_mem_cons_iff, or_iff_right same, ← kept]
          exact later
        · rw [first, ← knows_congr kept,
            or_iff_right fun both : r.header.ma = ma ∧ source ∈ r.sources => same both.1]
          exact later_known source

/-- Each record header of a report is read where it was written, and the records end where they were
written to end. -/
def ReadsWritten (rt : MLDRouter) (srcAddr : Ipv6Addr) (ns : BitVec 16) (msg : MLDv2Report)
    (rs : List ReportedRecord) : Prop :=
  msg.noMAR.toNat = rs.length ∧ ∀ k ≤ rs.length, ∃ rt',
    parseRecords msg srcAddr ns k rt 0 = .ok (rt', writtenSize (rs.take k))

/-- The groups and sources of a router are those of the current-state and ALLOW records. -/
structure Learned (rt : MLDRouter) (rs : List ReportedRecord) : Prop where
  groups : ∀ ma, (rt.lsTable.searchMAR ma).isSome ↔ ∃ r ∈ rs, r.header.ma = ma ∧ r.Listens
  sources : ∀ ma sa, rt.Knows ma sa ↔ ∃ r ∈ rs, r.header.ma = ma ∧ r.Listens ∧ sa ∈ r.sources

theorem learned_iff {rs : List ReportedRecord} (groups : Groups rs)
    (fully : ∀ r ∈ rs, r.header.type ≠ isIn → r.sources = []) :
    (create.processRecords srcAddr ns rs).Learned rs ↔ ∀ r ∈ rs, r.Listens := by
  have processed := @processRecords_absent create srcAddr ns rs groups (fun _ _ => rfl) fully
  have learned_group (ma : Ipv6Addr) : ((create.processRecords srcAddr ns rs).lsTable.searchMAR ma).isSome ↔
      ∃ r ∈ rs, r.header.ma = ma := (processed ma).1.trans (or_iff_right nofun)
  have unknown (ma source : Ipv6Addr) : ¬ create.Knows ma source := not_or.mpr ⟨nofun, nofun⟩
  constructor
  · intro learned r member
    obtain ⟨same, listed, at_ma, listens⟩ :=
      (learned.groups r.header.ma).mp ((learned_group r.header.ma).mpr ⟨r, member, rfl⟩)
    have equal : same = r := List.inj_on_of_nodup_map groups listed member at_ma
    exact equal ▸ listens
  · intro listens
    refine ⟨fun ma => (learned_group ma).trans ?_, fun ma sa => ?_⟩
    · constructor
      · rintro ⟨r, member, at_ma⟩
        exact ⟨r, member, at_ma, listens r member⟩
      · rintro ⟨r, member, at_ma, _⟩
        exact ⟨r, member, at_ma⟩
    · rw [(processed ma).2 sa, or_iff_right (unknown ma sa)]
      constructor
      · rintro ⟨r, member, at_ma, reported⟩
        exact ⟨r, member, at_ma, listens r member, reported⟩
      · rintro ⟨r, member, at_ma, _, reported⟩
        exact ⟨r, member, at_ma, reported⟩

end MLDRouter

open MLDRouter

variable {t : MLDv2Record} {kind : ReportKind}

theorem groups_reported (distinct : KeyList.Distinct (·.ma) t.mar) : Groups (t.reported kind) := by
  have keys : (t.reported kind).map (·.header.ma) = t.mar.map (·.ma) := by
    cases kind with
    | gq =>
        change (t.mar.map fun r => r.setNS.current).map (·.header.ma) = _
        rw [List.map_map]
        exact List.map_congr_left fun r _ => MARecord.setNS_ma
    | massq =>
        change (t.mar.map fun r => r.setNS.current).map (·.header.ma) = _
        rw [List.map_map]
        exact List.map_congr_left fun r _ => MARecord.setNS_ma
    | change =>
        change (t.mar.map fun r => r.setNS.change).map (·.header.ma) = _
        rw [List.map_map]
        exact List.map_congr_left fun r _ => MARecord.setNS_ma
  unfold Groups
  rw [keys]
  exact distinct

theorem length_reported : (t.reported kind).length = t.mar.length := by
  cases kind with
  | gq => exact List.length_map _
  | massq => exact List.length_map _
  | change => exact List.length_map _

theorem opt_of_report {msg : MLDv2Report} {t' : MLDv2Record} (sends : t.report kind = .ok (msg, t')) :
    msg.noMAR = t.noMAR kind ∧ ∃ slack, msg.opt = [] ++ recordBytes (t.reported kind) ++ slack := by
  obtain ⟨sent, _, slack, sends', number, opt⟩ := MLDv2Record.report_eq (MLDv2Record.sendable_of_report sends)
  obtain ⟨same, _⟩ := Prod.mk.inj (Except.ok.inj (sends.symm.trans sends'))
  rw [same]
  exact ⟨number, slack, opt⟩

theorem readsWritten_iff (distinct : KeyList.Distinct (·.ma) t.mar) {rt : MLDRouter} {srcAddr : Ipv6Addr}
    {ns : BitVec 16} :
    (∃ msg t', t.report kind = .ok (msg, t') ∧ rt.ReadsWritten srcAddr ns msg (t.reported kind)) ↔
      t.Sendable kind ∧ (t.noMAR kind).toNat = t.mar.length ∧ ∀ r ∈ t.reported kind, rt.FullyRead r := by
  constructor
  · rintro ⟨msg, t', sends, number, parses⟩
    obtain ⟨counted, slack, opt⟩ := opt_of_report sends
    rw [counted, length_reported] at number
    refine ⟨MLDv2Record.sendable_of_report sends, number, ?_⟩
    refine @fullyRead_of_parseRecords rt msg srcAddr ns _ [] slack opt (groups_reported distinct) fun k within => ?_
    obtain ⟨rt', parsed⟩ := parses k within
    exact ⟨rt', by rw [List.length_nil, Nat.zero_add]; exact parsed⟩
  · rintro ⟨sendable, number, fully⟩
    obtain ⟨msg, t', slack, sends, counted, opt⟩ := MLDv2Record.report_eq sendable
    refine ⟨msg, t', sends, ?_, fun k within => ?_⟩
    · rw [counted, number, length_reported]
    · have parsed := @parseRecords_fullyRead rt msg srcAddr ns (t.reported kind) [] slack opt
        (groups_reported distinct) fully k within
      rw [List.length_nil, Nat.zero_add] at parsed
      exact ⟨_, parsed⟩

theorem parseMsg_eq {msg : MLDv2Report} {t' : MLDv2Record} {rt : MLDRouter} {srcAddr : Ipv6Addr}
    {ns : BitVec 16} (distinct : KeyList.Distinct (·.ma) t.mar) (sends : t.report kind = .ok (msg, t'))
    (number : (t.noMAR kind).toNat = t.mar.length) (fully : ∀ r ∈ t.reported kind, rt.FullyRead r) :
    rt.parseMsg msg srcAddr ns = .ok (rt.processRecords srcAddr ns (t.reported kind)) := by
  obtain ⟨counted, slack, opt⟩ := opt_of_report sends
  have parsed := @parseRecords_fullyRead rt msg srcAddr ns (t.reported kind) [] slack opt
    (groups_reported distinct) fully _ (Nat.le_refl _)
  rw [List.length_nil, List.take_length, length_reported, ← number, ← counted] at parsed
  unfold parseMsg
  rw [parsed]
  rfl

/-- A router reads each record of a report where it was written if and only if the report can be sent
with the number of its records, and of each record as many sources are read, for the type that the
router has for its group, as were written. With an empty table it ends with what is reported if and
only if all records are current-state or ALLOW records, too. -/
theorem report_parsing (distinct : KeyList.Distinct (·.ma) t.mar) (kind : ReportKind) (rt : MLDRouter)
    (srcAddr : Ipv6Addr) (ns : BitVec 16) :
    ((∃ msg t', t.report kind = .ok (msg, t') ∧ rt.ReadsWritten srcAddr ns msg (t.reported kind)) ↔
      t.Sendable kind ∧ (t.noMAR kind).toNat = t.mar.length ∧ ∀ r ∈ t.reported kind, rt.FullyRead r) ∧
    ((∃ msg t' rt', t.report kind = .ok (msg, t') ∧
        MLDRouter.create.ReadsWritten srcAddr ns msg (t.reported kind) ∧
        MLDRouter.create.parseMsg msg srcAddr ns = .ok rt' ∧ rt'.Learned (t.reported kind)) ↔
      t.Sendable kind ∧ (t.noMAR kind).toNat = t.mar.length ∧
        ∀ r ∈ t.reported kind, MLDRouter.create.FullyRead r ∧ r.Listens) := by
  refine ⟨readsWritten_iff distinct, ?_⟩
  have groups := @groups_reported t kind distinct
  constructor
  · rintro ⟨msg, t', rt', sends, reads, parses, learned⟩
    obtain ⟨sendable, number, fully⟩ := (readsWritten_iff distinct).mp ⟨msg, t', sends, reads⟩
    cases (parseMsg_eq distinct sends number fully).symm.trans parses
    refine ⟨sendable, number, fun r member => ⟨fully r member, ?_⟩⟩
    exact (learned_iff groups fun r member => (fully r member).sources).mp learned r member
  · rintro ⟨sendable, number, fully⟩
    have read (r : ReportedRecord) (member : r ∈ t.reported kind) := (fully r member).1
    obtain ⟨msg, t', sends, reads⟩ := (readsWritten_iff distinct).mpr ⟨sendable, number, read⟩
    refine ⟨msg, t', _, sends, reads, parseMsg_eq distinct sends number read, ?_⟩
    exact (learned_iff groups fun r member => (read r member).sources).mpr fun r member => (fully r member).2

/-- The report of a router's neighbour: an included group with two sources and an excluded group -/
def exampleRecords : MLDv2Record where
  nmar := 2
  mar :=
    [{ MARecord.create ⟨0xff3e0000, 0, 0, 1⟩ isIn 2 with
        inNS := 2, inSize := 52, inSAL := [.create ⟨9, 0, 0, 9⟩ 0, .create ⟨9, 0, 0, 8⟩ 0] },
      .create ⟨0xff3e0000, 0, 0, 2⟩ isEx 0]

theorem report_parsing_example : ∃ msg t' rt', exampleRecords.report .gq = .ok (msg, t') ∧
    MLDRouter.create.ReadsWritten ⟨7, 0, 0, 7⟩ 0 msg (exampleRecords.reported .gq) ∧
    MLDRouter.create.parseMsg msg ⟨7, 0, 0, 7⟩ 0 = .ok rt' ∧ rt'.Learned (exampleRecords.reported .gq) := by
  have distinct : (exampleRecords.mar.map (·.ma)).Nodup := by decide
  refine (report_parsing distinct .gq MLDRouter.create ⟨7, 0, 0, 7⟩ 0).2.mpr ⟨⟨?_, ?_, ?_, ?_⟩, ?_, ?_⟩
  · decide
  · decide
  · decide
  · decide
  · rfl
  · decide +kernel

/-- Two groups that are now listened to, with a source each, change at once. -/
def exampleChange : MLDv2Record where
  nmar := 2
  mar :=
    [{ MARecord.create ⟨0xff3e0000, 0, 0, 1⟩ allow 0 with
        inNS := 1, inSize := 36, inSAL := [.create ⟨9, 0, 0, 9⟩ 0] },
      { MARecord.create ⟨0xff3e0000, 0, 0, 2⟩ allow 0 with
        inNS := 1, inSize := 36, inSAL := [.create ⟨9, 0, 0, 8⟩ 0] }]

/-- The source of the first group is not read, and the second header is read from its bytes. -/
theorem report_parsing_fails :
    (do let (msg, _) ← exampleChange.report .change
        let rt ← MLDRouter.create.parseMsg msg ⟨7, 0, 0, 7⟩ 0
        return rt.lsTable.mar.map fun r => (r.type, r.inSAL.length)) = Except.ok [(9, 0), (allow, 0)] ∧
    ¬ ∃ msg t', exampleChange.report .change = .ok (msg, t') ∧
      MLDRouter.create.ReadsWritten ⟨7, 0, 0, 7⟩ 0 msg (exampleChange.reported .change) := by
  have distinct : (exampleChange.mar.map (·.ma)).Nodup := by decide
  refine ⟨by decide +kernel, fun reads => ?_⟩
  have fully := ((readsWritten_iff distinct).mp reads).2.2
  revert fully
  decide +kernel

end IPv6Suite
