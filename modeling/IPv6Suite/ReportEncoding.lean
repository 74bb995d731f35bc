import IPv6Suite.MLD

namespace IPv6Suite

open Lib RecordType

theorem Ipv6Addr.length_bytes (addr : Ipv6Addr) : addr.bytes.length = 16 := rfl

theorem Ipv6Addr.ofBytes_bytes (addr : Ipv6Addr) : Ipv6Addr.ofBytes addr.bytes = addr := by
  have word (x : BitVec 32) : BitVec.ofNat 32 (Bytes.toNat (Bytes.ofNat 4 x.toNat)) = x :=
    Bytes.toNat_word x (by decide)
  calc Ipv6Addr.ofBytes addr.bytes
      = ⟨BitVec.ofNat 32 (Bytes.toNat (Bytes.ofNat 4 addr.extreme.toNat)),
          BitVec.ofNat 32 (Bytes.toNat (Bytes.ofNat 4 addr.high.toNat)),
          BitVec.ofNat 32 (Bytes.toNat (Bytes.ofNat 4 addr.normal.toNat)),
          BitVec.ofNat 32 (Bytes.toNat (Bytes.ofNat 4 addr.low.toNat))⟩ := rfl
    _ = addr := by rw [word, word, word, word]

theorem MARHeader.length_bytes (h : MARHeader) : h.bytes.length = 20 := rfl

theorem MARHeader.ofBytes_bytes (h : MARHeader) : MARHeader.ofBytes h.bytes = h := by
  calc MARHeader.ofBytes h.bytes
      = ⟨h.type, h.auxDataLen, BitVec.ofNat 16 (Bytes.toNat (Bytes.ofNat 2 h.ns.toNat)),
          Ipv6Addr.ofBytes h.ma.bytes⟩ := rfl
    _ = h := by rw [Bytes.toNat_word h.ns (by decide), Ipv6Addr.ofBytes_bytes]

/-- A record as it is written into a report: its header and its sources -/
structure ReportedRecord where
  header : MARHeader
  sources : List Ipv6Addr

def sourceBytes (sas : List Ipv6Addr) : Bytes := sas.flatMap Ipv6Addr.bytes

theorem length_sourceBytes (sas : List Ipv6Addr) : (sourceBytes sas).length = 16 * sas.length := by
  induction sas with
  | nil => rfl
  | cons sa rest ih =>
      change (sa.bytes ++ sourceBytes rest).length = _
      rw [List.length_append, ih, Ipv6Addr.length_bytes, List.length_cons]
      omega

namespace ReportedRecord

def bytes (r : ReportedRecord) : Bytes := r.header.bytes ++ sourceBytes r.sources

/-- `20 + 16 * NS` for the sources that are written -/
def size (r : ReportedRecord) : Nat := 20 + 16 * r.sources.length

theorem length_bytes (r : ReportedRecord) : r.bytes.length = r.size := by
  unfold bytes size
  rw [List.length_append, MARHeader.length_bytes, length_sourceBytes]

end ReportedRecord

def recordBytes (rs : List ReportedRecord) : Bytes := rs.flatMap ReportedRecord.bytes

/-- The offset at which the record behind these is written -/
def writtenSize (rs : List ReportedRecord) : Nat := (rs.map ReportedRecord.size).sum

namespace MLDv2Report

variable {msg msg' : MLDv2Report} {num : BitVec 16} {front bytes back : Bytes} {offset : Nat}

theorem setOpt_eq (room : bytes.length ≤ back.length) : MLDv2Report.setOpt ⟨num, front ++ back⟩ bytes front.length =
      .ok ⟨num, front ++ bytes ++ back.drop bytes.length⟩ := by
  have split : front ++ back = front ++ back.take bytes.length ++ back.drop bytes.length := by
    rw [List.append_assoc, List.take_append_drop]
  unfold setOpt
  rw [split, Bytes.write_append (List.length_take_of_le room)]
  rfl

theorem setNoMAR_eq (positive : 0 ≤ num.toInt) : msg.setNoMAR num = .ok { msg with noMAR := num } := by
  unfold setNoMAR
  rw [assert_pos positive]
  rfl

theorem setOpt_ok (sets : msg.setOpt bytes offset = .ok msg') :
    msg'.opt.length = msg.opt.length ∧ offset + bytes.length ≤ msg.opt.length := by
  unfold setOpt Bytes.write at sets
  split at sets
  · rename_i room
    cases sets
    refine ⟨?_, room⟩
    simp only [List.length_append, List.length_take, List.length_drop]
    omega
  · cases sets

variable {sas : List Ipv6Addr}

theorem setSources_eq (room : 16 * sas.length ≤ back.length) :
    MLDv2Report.setSources ⟨num, front ++ back⟩ front.length sas = .ok
      (⟨num, front ++ sourceBytes sas ++ back.drop (16 * sas.length)⟩, front.length + 16 * sas.length) := by
  induction sas generalizing front back with
  | nil =>
      rw [List.length_nil, Nat.mul_zero, Nat.add_zero, List.drop_zero]
      change _ = Except.ok (MLDv2Report.mk num (front ++ [] ++ back), front.length)
      rw [List.append_nil]
      rfl
  | cons sa rest ih =>
      rw [List.length_cons] at room
      have first : sa.bytes.length ≤ back.length := by
        rw [Ipv6Addr.length_bytes]
        omega
      have later : 16 * rest.length ≤ (back.drop sa.bytes.length).length := by
        rw [List.length_drop, Ipv6Addr.length_bytes]
        omega
      have behind : (front ++ sa.bytes).length = front.length + 16 := by
        rw [List.length_append, Ipv6Addr.length_bytes]
      unfold setSources
      rw [setOpt_eq first, ok_bind, ← behind, ih later, List.drop_drop, Ipv6Addr.length_bytes,
        List.append_assoc front, behind, List.length_cons]
      change Except.ok (MLDv2Report.mk num (front ++ sourceBytes (sa :: rest) ++ _), _) = _
      rw [Nat.mul_add, Nat.mul_one, Nat.add_comm 16, Nat.add_assoc front.length, Nat.add_comm 16]

theorem setSources_ok {next : Nat} (inside : offset ≤ msg.opt.length)
    (sets : msg.setSources offset sas = .ok (msg', next)) :
    msg'.opt.length = msg.opt.length ∧ next = offset + 16 * sas.length ∧ next ≤ msg.opt.length := by
  induction sas generalizing msg offset with
  | nil =>
      cases sets
      exact ⟨rfl, rfl, inside⟩
  | cons sa rest ih =>
      obtain ⟨middle, first, rest⟩ := bind_eq_ok.mp sets
      obtain ⟨same, room⟩ := setOpt_ok first
      rw [Ipv6Addr.length_bytes] at room
      obtain ⟨length, next, fits⟩ := ih (same ▸ room) rest
      refine ⟨length.trans same, ?_, same ▸ fits⟩
      rw [next, List.length_cons]
      omega

theorem length_getSources {n : Nat} (reads : msg.getSources offset n = .ok sas) : sas.length = n := by
  induction n generalizing offset sas with
  | zero =>
      cases reads
      rfl
  | succ n ih =>
      obtain ⟨sa, -, reads⟩ := bind_eq_ok.mp reads
      obtain ⟨rest, later, ends⟩ := bind_eq_ok.mp reads
      cases ends
      exact congrArg (· + 1) (ih later)

theorem getSources_eq :
    MLDv2Report.getSources ⟨num, front ++ sourceBytes sas ++ back⟩ front.length sas.length = .ok sas := by
  induction sas generalizing front with
  | nil => rfl
  | cons sa rest ih =>
      have whole : front ++ sourceBytes (sa :: rest) ++ back =
          front ++ sa.bytes ++ (sourceBytes rest ++ back) := by
        change front ++ (sa.bytes ++ sourceBytes rest) ++ back = _
        simp only [List.append_assoc]
      have behind : (front ++ sa.bytes).length = front.length + 16 := by
        rw [List.length_append, Ipv6Addr.length_bytes]
      have first : MLDv2Report.getOpt ⟨num, front ++ sourceBytes (sa :: rest) ++ back⟩ front.length 16 =
          .ok sa.bytes := by
        unfold getOpt
        rw [whole]
        exact @Bytes.read_append front sa.bytes _
      have later := @ih (front ++ sa.bytes)
      rw [List.append_assoc (front ++ sa.bytes), ← whole, behind] at later
      rw [List.length_cons]
      unfold getSources
      rw [first, ok_bind, later, ok_bind, Ipv6Addr.ofBytes_bytes]
      rfl

end MLDv2Report

namespace MARecord

/-- What `MLDv2ReportGQ` and `MLDv2ReportMASSQ` write of a record -/
def current (r : MARecord) : ReportedRecord := ⟨r.header, (r.sal r.type).map (·.sa)⟩

def change (r : MARecord) : ReportedRecord :=
  ⟨⟨r.type, 0, BitVec.ofNat 16 r.inSAL.length, r.ma⟩, r.inSAL.map (·.sa)⟩

end MARecord

namespace MLDv2Report

/-- A function that writes a record writes the bytes of what is reported behind each other, and fails if
the buffer ends before. -/
structure Writes (set : MLDv2Report → Nat → MARecord → Exec (MLDv2Report × Nat))
    (reported : MARecord → ReportedRecord) : Prop where
  writes : ∀ {num front m r}, (reported r).size ≤ m →
    set ⟨num, front ++ List.replicate m 0⟩ front.length r = .ok
      (⟨num, front ++ (reported r).bytes ++ List.replicate (m - (reported r).size) 0⟩,
        front.length + (reported r).size)
  fits : ∀ {msg offset r msg' next}, set msg offset r = .ok (msg', next) →
    msg'.opt.length = msg.opt.length ∧ next = offset + (reported r).size ∧ next ≤ msg.opt.length

variable {msg msg' : MLDv2Report} {num : BitVec 16} {front : Bytes} {offset next m : Nat}

theorem writes_setCurrent : Writes setCurrent MARecord.current where
  writes {num front m r} room := by
    change 20 + 16 * ((r.sal r.type).map (·.sa)).length ≤ m at room
    have header : r.header.bytes.length ≤ (List.replicate m (0 : BitVec 8)).length := by
      rw [MARHeader.length_bytes, List.length_replicate]
      omega
    have rest : 16 * ((r.sal r.type).map (·.sa)).length ≤ (List.replicate (m - 20) (0 : BitVec 8)).length := by
      rw [List.length_replicate]
      omega
    have behind : (front ++ r.header.bytes).length = front.length + 20 := by
      rw [List.length_append, MARHeader.length_bytes]
    unfold setCurrent
    rw [setOpt_eq header, ok_bind, List.drop_replicate, MARHeader.length_bytes, ← behind,
      setSources_eq rest, List.drop_replicate, behind, List.append_assoc front, Nat.add_assoc, Nat.sub_sub]
    rfl
  fits {msg offset r msg' next} sets := by
    obtain ⟨middle, first, rest⟩ := bind_eq_ok.mp sets
    obtain ⟨same, room⟩ := setOpt_ok first
    rw [MARHeader.length_bytes] at room
    obtain ⟨length, next, fits⟩ := setSources_ok (same ▸ room) rest
    refine ⟨length.trans same, ?_, same ▸ fits⟩
    rw [next, Nat.add_assoc]
    rfl

/-- The header is written in three parts; what is between them stays 0. -/
theorem writes_setChange : Writes setChange MARecord.change where
  writes {num front m r} room := by
    change 20 + 16 * (r.inSAL.map (·.sa)).length ≤ m at room
    obtain ⟨k, rfl⟩ : ∃ k, m = 20 + k := Nat.exists_eq_add_of_le (Nat.le_of_add_right_le room)
    let count := Bytes.ofNat 2 (BitVec.ofNat 16 r.inSAL.length).toNat
    have first : MLDv2Report.setOpt ⟨num, front ++ List.replicate (20 + k) 0⟩ [r.type] front.length =
        .ok ⟨num, front ++ [r.type, 0] ++ List.replicate (18 + k) 0⟩ := by
      rw [setOpt_eq (by rw [List.length_replicate, List.length_singleton]; omega), List.drop_replicate,
        List.length_singleton, show 20 + k - 1 = 18 + k + 1 by omega, List.replicate_succ,
        List.append_assoc, List.append_assoc]
      rfl
    have second : MLDv2Report.setOpt ⟨num, front ++ [r.type, 0] ++ List.replicate (18 + k) 0⟩ count
        (front.length + 2) = .ok ⟨num, front ++ [r.type, 0] ++ count ++ List.replicate (16 + k) 0⟩ := by
      have at_two : front.length + 2 = (front ++ [r.type, 0]).length := by rw [List.length_append]; rfl
      have two : count.length = 2 := rfl
      rw [at_two, setOpt_eq (by rw [List.length_replicate, two]; omega), List.drop_replicate, two,
        show 18 + k - 2 = 16 + k by omega]
    have third : MLDv2Report.setOpt ⟨num, front ++ [r.type, 0] ++ count ++ List.replicate (16 + k) 0⟩
        r.ma.bytes (front.length + 4) =
        .ok ⟨num, front ++ r.change.header.bytes ++ List.replicate k 0⟩ := by
      have at_four : front.length + 4 = (front ++ [r.type, 0] ++ count).length := by
        rw [List.length_append, List.length_append]
        rfl
      have header : r.change.header.bytes = [r.type, 0] ++ count ++ r.ma.bytes := rfl
      rw [at_four, setOpt_eq (by rw [List.length_replicate, Ipv6Addr.length_bytes]; omega),
        List.drop_replicate, Ipv6Addr.length_bytes, show 16 + k - 16 = k by omega, header]
      simp only [List.append_assoc]
    have behind : front.length + 20 = (front ++ r.change.header.bytes).length := by
      rw [List.length_append, MARHeader.length_bytes]
    have rest : 16 * (r.inSAL.map (·.sa)).length ≤ (List.replicate k (0 : BitVec 8)).length := by
      rw [List.length_replicate]
      omega
    unfold setChange
    rw [first, ok_bind, second, ok_bind, third, ok_bind, behind, setSources_eq rest,
      List.drop_replicate, ← behind, List.append_assoc front, Nat.add_assoc]
    have left : k - 16 * (r.inSAL.map (·.sa)).length = 20 + k - r.change.size := by
      change _ = 20 + k - (20 + 16 * (r.inSAL.map (·.sa)).length)
      omega
    rw [left]
    rfl
  fits {msg offset r msg' next} sets := by
    obtain ⟨first, sets₁, rest⟩ := bind_eq_ok.mp sets
    obtain ⟨second, sets₂, rest⟩ := bind_eq_ok.mp rest
    obtain ⟨third, sets₃, rest⟩ := bind_eq_ok.mp rest
    obtain ⟨same₁, -⟩ := setOpt_ok sets₁
    obtain ⟨same₂, -⟩ := setOpt_ok sets₂
    obtain ⟨same₃, room⟩ := setOpt_ok sets₃
    have same : third.opt.length = msg.opt.length := same₃.trans (same₂.trans same₁)
    have inside : offset + 20 ≤ third.opt.length := by
      rw [Ipv6Addr.length_bytes] at room
      omega
    obtain ⟨length, next, fits⟩ := setSources_ok inside rest
    refine ⟨length.trans same, ?_, same ▸ fits⟩
    rw [next, Nat.add_assoc]
    rfl

variable {set : MLDv2Report → Nat → MARecord → Exec (MLDv2Report × Nat)} {rs : List MARecord}

theorem Writes.setRecords {reported : MARecord → ReportedRecord} (writes : Writes set reported)
    (room : writtenSize (rs.map reported) ≤ m) :
    MLDv2Report.setRecords set ⟨num, front ++ List.replicate m 0⟩ front.length rs = .ok
      (⟨num, front ++ recordBytes (rs.map reported) ++ List.replicate (m - writtenSize (rs.map reported)) 0⟩,
        front.length + writtenSize (rs.map reported)) := by
  induction rs generalizing front m with
  | nil =>
      change _ = Except.ok (MLDv2Report.mk num (front ++ [] ++ List.replicate m 0), front.length)
      rw [List.append_nil]
      rfl
  | cons r rest ih =>
      change (reported r).size + writtenSize (rest.map reported) ≤ m at room
      have behind : (front ++ (reported r).bytes).length = front.length + (reported r).size := by
        rw [List.length_append, ReportedRecord.length_bytes]
      unfold MLDv2Report.setRecords
      rw [writes.writes (Nat.le_of_add_right_le room), ok_bind]
      dsimp only
      rw [← behind, ih (by omega), behind, List.append_assoc front, Nat.add_assoc, Nat.sub_sub]
      rfl

theorem Writes.setRecords_ok {reported : MARecord → ReportedRecord} (writes : Writes set reported)
    (inside : offset ≤ msg.opt.length) (sets : msg.setRecords set offset rs = .ok (msg', next)) :
    offset + writtenSize (rs.map reported) ≤ msg.opt.length := by
  induction rs generalizing msg offset with
  | nil => exact inside
  | cons r rest ih =>
      obtain ⟨⟨middle, behind⟩, first, later⟩ := bind_eq_ok.mp sets
      obtain ⟨same, at_behind, fits⟩ := writes.fits first
      have later := ih (same ▸ fits) later
      rw [same, at_behind] at later
      change offset + ((reported r).size + writtenSize (rest.map reported)) ≤ _
      omega

end MLDv2Report

namespace MARecord

def reportSize (r : MARecord) : BitVec 32 :=
  if r.type = isEx then 20 + r.auxDataLen.signExtend 32 + r.exNS.signExtend 32 * 16 else r.inSize

theorem sizeInMAL_eq (r : MARecord) :
    ∃ inSize exSize, r.sizeInMAL = .ok (r.reportSize, { r.setNS with inSize, exSize }) := by
  unfold sizeInMAL reportSize setNS
  by_cases included : r.type = isIn
  · rw [if_pos included, if_neg (by rw [included]; decide), if_pos included]
    exact ⟨_, _, rfl⟩
  · rw [if_neg included, if_neg included]
    by_cases excluded : r.type = isEx
    · rw [if_pos excluded, if_pos excluded, if_pos excluded]
      unfold sizeofMAR
      dsimp only
      rw [assert_pos (Or.inr excluded), ok_bind, if_neg included]
      exact ⟨_, _, rfl⟩
    · rw [if_neg excluded, if_neg excluded, if_neg excluded]
      exact ⟨_, _, rfl⟩

end MARecord

/-- The functions that send a report -/
inductive ReportKind where
  | gq
  | massq
  | change
deriving DecidableEq

namespace MLDv2Record

def report (t : MLDv2Record) : ReportKind → Exec (MLDv2Report × MLDv2Record)
  | .gq => t.reportGQ
  | .massq => t.reportMASSQ
  | .change => t.changeReport

def reported (t : MLDv2Record) : ReportKind → List ReportedRecord
  | .change => t.mar.map fun r => r.setNS.change
  | _ => t.mar.map fun r => r.setNS.current

def optSize (t : MLDv2Record) : ReportKind → BitVec 32
  | .change => 8 + (t.mar.map (·.reportSize)).sum
  | _ => (t.mar.map (·.reportSize)).sum

def noMAR (t : MLDv2Record) : ReportKind → BitVec 16
  | .massq => BitVec.ofNat 16 t.mar.length
  | _ => t.nmar

/-- A report can be written: the numbers of records are not negative, and the options are large enough
for what is written. -/
structure Sendable (t : MLDv2Record) (kind : ReportKind) : Prop where
  nmar : 0 ≤ t.nmar.toInt
  noMAR : 0 ≤ (t.noMAR kind).toInt
  allocated : 0 ≤ (t.optSize kind).toInt
  fits : writtenSize (t.reported kind) ≤ (t.optSize kind).toNat

variable {t t' : MLDv2Record} {kind : ReportKind} {msg : MLDv2Report}

theorem sizeofMAL_eq (t : MLDv2Record) : ∃ mar, t.sizeofMAL = .ok ((t.mar.map (·.reportSize)).sum, { t with mar }) ∧
    mar.map (·.current) = t.mar.map (fun r => r.setNS.current) ∧
    mar.map (·.change) = t.mar.map (fun r => r.setNS.change) := by
  have sizes (rs : List MARecord) : ∃ sized, rs.mapM MARecord.sizeInMAL = .ok sized ∧
      sized.map (·.1) = rs.map (·.reportSize) ∧
      (sized.map (·.2)).map (·.current) = rs.map (fun r => r.setNS.current) ∧
      (sized.map (·.2)).map (·.change) = rs.map (fun r => r.setNS.change) := by
    induction rs with
    | nil => exact ⟨[], rfl, rfl, rfl, rfl⟩
    | cons r rest ih =>
        obtain ⟨inSize, exSize, first⟩ := r.sizeInMAL_eq
        obtain ⟨sized, later, sizes, currents, changes⟩ := ih
        refine ⟨(r.reportSize, { r.setNS with inSize, exSize }) :: sized, ?_, ?_, ?_, ?_⟩
        · rw [List.mapM_cons, first, ok_bind, later]
          rfl
        · rw [List.map_cons, List.map_cons, sizes]
        · rw [List.map_cons, List.map_cons, List.map_cons, currents]
          rfl
        · rw [List.map_cons, List.map_cons, List.map_cons, changes]
          rfl
  obtain ⟨sized, maps, sizes, currents, changes⟩ := sizes t.mar
  refine ⟨sized.map (·.2), ?_, currents, changes⟩
  unfold sizeofMAL
  rw [maps, ok_bind, sizes]
  rfl

variable {written : MARecord → ReportedRecord}

theorem setRecords_create {set : MLDv2Report → Nat → MARecord → Exec (MLDv2Report × Nat)}
    (writes : MLDv2Report.Writes set written) {num : BitVec 16}
    {size : BitVec 32} {rs : List MARecord} (allocated : 0 ≤ size.toInt) (positive : 0 ≤ num.toInt)
    (room : writtenSize (rs.map written) ≤ size.toNat) :
    ∃ empty slack next, MLDv2Report.create size = .ok empty ∧
      empty.setNoMAR num = .ok { empty with noMAR := num } ∧
      MLDv2Report.setRecords set { empty with noMAR := num } 0 rs =
        .ok (⟨num, recordBytes (rs.map written) ++ slack⟩, next) := by
  have creates : MLDv2Report.create size = .ok ⟨0, List.replicate size.toNat 0⟩ := if_pos allocated
  have sets : MLDv2Report.setRecords set ⟨num, [] ++ List.replicate size.toNat 0⟩ ([] : Bytes).length rs = _ :=
    writes.setRecords room
  exact ⟨_, _, _, creates, MLDv2Report.setNoMAR_eq positive, sets⟩

theorem room_create {set : MLDv2Report → Nat → MARecord → Exec (MLDv2Report × Nat)}
    (writes : MLDv2Report.Writes set written) {num : BitVec 16}
    {size : BitVec 32} {rs : List MARecord} {empty numbered msg : MLDv2Report} {next : Nat}
    (creates : MLDv2Report.create size = .ok empty) (numbers : empty.setNoMAR num = .ok numbered)
    (sets : numbered.setRecords set 0 rs = .ok (msg, next)) :
    0 ≤ num.toInt ∧ 0 ≤ size.toInt ∧ writtenSize (rs.map written) ≤ size.toNat := by
  unfold MLDv2Report.create at creates
  split at creates
  · rename_i allocated
    cases creates
    obtain ⟨_, positive, rest⟩ := bind_eq_ok.mp numbers
    cases rest
    have fits := writes.setRecords_ok (Nat.zero_le _) sets
    rw [Nat.zero_add, List.length_replicate] at fits
    exact ⟨(assert_eq_ok _ _).mp positive, allocated, fits⟩
  · cases creates

theorem report_eq (sendable : t.Sendable kind) :
    ∃ msg t' slack, t.report kind = .ok (msg, t') ∧ msg.noMAR = t.noMAR kind ∧
      msg.opt = recordBytes (t.reported kind) ++ slack := by
  obtain ⟨mar, sized, currents, changes⟩ := t.sizeofMAL_eq
  obtain ⟨positive, counted, allocated, fits⟩ := sendable
  cases kind with
  | gq =>
      change 0 ≤ (List.map MARecord.reportSize t.mar).sum.toInt at allocated
      change writtenSize (t.mar.map fun r => r.setNS.current) ≤ _ at fits
      rw [← currents] at fits
      obtain ⟨empty, slack, next, creates, numbers, sets⟩ :=
        setRecords_create MLDv2Report.writes_setCurrent allocated positive fits
      have sends : t.reportGQ = .ok (⟨t.nmar, recordBytes (mar.map (·.current)) ++ slack⟩, { t with mar }) := by
        unfold reportGQ
        rw [sized]
        dsimp only [ok_bind]
        rw [creates, ok_bind, numbers, ok_bind, sets]
        rfl
      exact ⟨_, _, slack, sends, rfl, by rw [currents]; rfl⟩
  | massq =>
      change 0 ≤ (BitVec.ofNat 16 t.mar.length).toInt at counted
      change 0 ≤ (List.map MARecord.reportSize t.mar).sum.toInt at allocated
      change writtenSize (t.mar.map fun r => r.setNS.current) ≤ _ at fits
      rw [← currents] at fits
      obtain ⟨empty, slack, next, creates, numbers, sets⟩ :=
        setRecords_create MLDv2Report.writes_setCurrent allocated positive fits
      have same : mar.length = t.mar.length := by
        have lengths := congrArg List.length currents
        rwa [List.length_map, List.length_map] at lengths
      have sends : t.reportMASSQ = .ok
          (⟨BitVec.ofNat 16 t.mar.length, recordBytes (mar.map (·.current)) ++ slack⟩, { t with mar := [] }) := by
        unfold reportMASSQ
        rw [sized]
        dsimp only [ok_bind]
        rw [creates, ok_bind, numbers, ok_bind, sets, ok_bind]
        dsimp only
        rw [same, MLDv2Report.setNoMAR_eq counted]
        rfl
      exact ⟨_, _, slack, sends, rfl, by rw [currents]; rfl⟩
  | change =>
      change 0 ≤ (8 + (List.map MARecord.reportSize t.mar).sum).toInt at allocated
      change writtenSize (t.mar.map fun r => r.setNS.change) ≤ _ at fits
      rw [← changes] at fits
      obtain ⟨empty, slack, next, creates, numbers, sets⟩ :=
        setRecords_create MLDv2Report.writes_setChange allocated positive fits
      have sends : t.changeReport =
          .ok (⟨t.nmar, recordBytes (mar.map (·.change)) ++ slack⟩, { t with mar }) := by
        unfold changeReport
        rw [sized]
        dsimp only [ok_bind]
        rw [creates, ok_bind, numbers, ok_bind, sets]
        rfl
      exact ⟨_, _, slack, sends, rfl, by rw [changes]; rfl⟩

theorem sendable_of_report (sends : t.report kind = .ok (msg, t')) : t.Sendable kind := by
  obtain ⟨mar, sized, currents, changes⟩ := t.sizeofMAL_eq
  cases kind with
  | gq =>
      change t.reportGQ = _ at sends
      unfold reportGQ at sends
      rw [sized, ok_bind] at sends
      obtain ⟨empty, creates, sends⟩ := bind_eq_ok.mp sends
      obtain ⟨numbered, numbers, sends⟩ := bind_eq_ok.mp sends
      obtain ⟨_, sets, _⟩ := bind_eq_ok.mp sends
      obtain ⟨positive, allocated, fits⟩ := room_create MLDv2Report.writes_setCurrent creates numbers sets
      rw [currents] at fits
      exact ⟨positive, positive, allocated, fits⟩
  | massq =>
      change t.reportMASSQ = _ at sends
      unfold reportMASSQ at sends
      rw [sized, ok_bind] at sends
      obtain ⟨empty, creates, sends⟩ := bind_eq_ok.mp sends
      obtain ⟨numbered, numbers, sends⟩ := bind_eq_ok.mp sends
      obtain ⟨⟨written, next⟩, sets, sends⟩ := bind_eq_ok.mp sends
      obtain ⟨counted, counts, _⟩ := bind_eq_ok.mp sends
      obtain ⟨_, count, _⟩ := bind_eq_ok.mp counts
      have same : mar.length = t.mar.length := by
        have lengths := congrArg List.length currents
        rwa [List.length_map, List.length_map] at lengths
      have number : 0 ≤ (BitVec.ofNat 16 t.mar.length).toInt := same ▸ (assert_eq_ok _ _).mp count
      obtain ⟨positive, allocated, fits⟩ := room_create MLDv2Report.writes_setCurrent creates numbers sets
      rw [currents] at fits
      exact ⟨positive, number, allocated, fits⟩
  | change =>
      change t.changeReport = _ at sends
      unfold changeReport at sends
      rw [sized, ok_bind] at sends
      obtain ⟨empty, creates, sends⟩ := bind_eq_ok.mp sends
      obtain ⟨numbered, numbers, sends⟩ := bind_eq_ok.mp sends
      obtain ⟨_, sets, _⟩ := bind_eq_ok.mp sends
      obtain ⟨positive, allocated, fits⟩ := room_create MLDv2Report.writes_setChange creates numbers sets
      rw [changes] at fits
      exact ⟨positive, positive, allocated, fits⟩

end MLDv2Record

end IPv6Suite
