import IPv6Suite.VoipPlayout
import IPv6Suite.Lib.Tally

namespace IPv6Suite

open Lib

/-- The sequence number in the frame of a packet -/
def frameSeqNo (n : Nat) : BitVec 32 := (BitVec.ofNat 16 n).setWidth 32

/-- The packets expected are those received and those lost, and nothing is divided by 0. -/
structure Evaluation.Balanced (e : Evaluation) : Prop where
  expected : e.expected = e.received + e.elossEvents.sum
  ratio : 0 ≤ e.ppl ∧ e.ppl ≤ 1
  expects : e.expected ≠ 0
  receives : e.elossEvents ≠ [] → e.received ≠ 0

/-- A run with what became of the numbers since the last evaluation -/
structure VoipCount where
  history : VoipHistory
  tally : Tally

namespace VoipCount

def start (own : BitVec 32) (raw : RTPMemberEntry) (params : VoipParams) : VoipCount :=
  ⟨VoipHistory.start own raw params, .empty⟩

/-- A packet that is not refused is in order, or fills a gap. Numbers that are passed over are recorded as dropped,
except by the first packet and by one that has wrapped. -/
def arrive (t : Tally) (n : Nat) : Tally :=
  if t.stop = 0 then t.jump false n
  else if t.stop ≤ n then
    if n < t.stop - 1 + MAX_DROPOUT then t.jump (n / RTP_SEQ_MOD = (t.stop - 1) / RTP_SEQ_MOD) n else t
  else if t.stop - 1 < n + MAX_MISORDER then t.fill n
  else t

def tallied (t : Tally) : VoipHistory.Event → Tally
  | .arrival _ _ n => arrive t n
  | .evaluate _ => t.restart
  | _ => t

def next (source : BitVec 32) (c : VoipCount) (e : VoipHistory.Event) : Exec VoipCount :=
  (c.history.next source e).map fun history => ⟨history, tallied c.tally e⟩

/-- No packet arrives twice, or after an evaluation that a later one came before. -/
def Arrives (c : VoipCount) (e : VoipHistory.Event) : Prop :=
  c.history.Distinct e ∧
    match e with
    | .arrival _ _ n => ∀ m ∈ c.history.before, m < n
    | _ => True

/-- The 16 bits of its sequence number say which packet it is: the first one is of the first cycle, the others are not a
cycle apart from the highest one, and none is taken for another that is recorded as dropped. -/
def Clear (c : VoipCount) : VoipHistory.Event → Prop
  | .arrival _ _ n =>
      if c.tally.stop = 0 then n < RTP_SEQ_MOD
      else n ≤ c.tally.stop - 1 + (RTP_SEQ_MOD - MAX_MISORDER) ∧ c.tally.stop - 1 + MAX_DROPOUT ≤ n + RTP_SEQ_MOD ∧
        (n < c.tally.stop → frameSeqNo n ∈ c.tally.recorded.map frameSeqNo → n ∈ c.tally.recorded)
  | _ => True

def Admits (c : VoipCount) (e : VoipHistory.Event) : Prop := c.Arrives e ∧ c.Clear e

/-- All packets that were passed over without a record have arrived, the highest one before was not packet 0, and a frame
was buffered. -/
structure Settled (c : VoipCount) : Prop where
  unrecorded : c.tally.unrecorded = []
  counted : c.tally.start = 0 ∨ BitVec.ofNat 32 (c.tally.start - 1) ≠ 0
  buffered : c.history.rtp.derived.elastReceived ≠ 0

instance (c : VoipCount) : (e : VoipHistory.Event) → Decidable (c.Arrives e)
  | .arrival .. | .send _ | .playout _ | .evaluate _ | .other _ => inferInstanceAs (Decidable (_ ∧ _))

instance (c : VoipCount) : (e : VoipHistory.Event) → Decidable (c.Clear e)
  | .arrival _ _ n =>
      haveI : Decidable (frameSeqNo n ∈ c.tally.recorded.map frameSeqNo) :=
        decidable_of_iff (∃ m ∈ c.tally.recorded, frameSeqNo m = frameSeqNo n) List.mem_map.symm
      inferInstanceAs (Decidable (if c.tally.stop = 0 then _ else _ ∧ _ ∧ _))
  | .send _ | .playout _ | .evaluate _ | .other _ => isTrue trivial

instance (c : VoipCount) (e : VoipHistory.Event) : Decidable (c.Admits e) := inferInstanceAs (Decidable (_ ∧ _))

end VoipCount

namespace RTPVoip

variable {rtp : RTP RTPVoip} {v after : RTPVoip} {raw s : RTPMemberEntry} {p : RTPPacket} {f : VoipFrame}
  {now : SimTime} {highest n : Nat}

theorem handleDroppedPackets_eq (numbered : s.Numbered highest) (later : highest < n)
    (same : n / RTP_SEQ_MOD = highest / RTP_SEQ_MOD) (v : RTPVoip) :
    v.handleDroppedPackets s (BitVec.ofNat 16 (n - highest)) = { v with
      probableDropped := v.probableDropped ++ [(List.range' (highest + 1) (n - (highest + 1))).map frameSeqNo] } := by
  have max : s.maxSeq.toNat = highest % RTP_SEQ_MOD := by
    rw [numbered.maxSeq]
    rfl
  have orig : (BitVec.ofNat 16 (n - highest) + s.maxSeq).toNat = n % RTP_SEQ_MOD := by
    rw [numbered.maxSeq, ← BitVec.ofNat_add, Nat.sub_add_cancel (Nat.le_of_lt later)]
    rfl
  unfold handleDroppedPackets
  dsimp only
  rw [orig, max]
  congr 3
  have count : n % RTP_SEQ_MOD - (highest % RTP_SEQ_MOD + 1) = n - (highest + 1) := by
    unfold RTP_SEQ_MOD at *
    omega
  rw [count]
  refine List.ext_getElem (by simp) fun i below _ => ?_
  rw [List.length_map, List.length_range'] at below
  simp only [List.getElem_map, List.getElem_range']
  refine BitVec.eq_of_toNat_eq ?_
  unfold frameSeqNo RTP_SEQ_MOD at *
  simp only [BitVec.toNat_setWidth, BitVec.toNat_ofNat]
  omega

theorem updateMember_later (sender : (rtp.memberEntry raw p.ssrc).sender = true)
    (numbered : (rtp.memberEntry raw p.ssrc).Numbered highest) (seq : p.seqNo = BitVec.ofNat 16 n) (later : highest < n)
    (near : n < highest + MAX_DROPOUT) :
    ∃ probableDropped, rtp.updateMember hooks raw p = .ok ({ rtp.derived with probableDropped },
        { rtp.memberEntry raw p.ssrc with
          maxSeq := BitVec.ofNat 16 n
          cycles := BitVec.ofNat 32 (n / RTP_SEQ_MOD * RTP_SEQ_MOD)
          received := (rtp.memberEntry raw p.ssrc).received + 1 }, p, true) ∧
      probableDropped.flatten = rtp.derived.probableDropped.flatten ++
        (if n / RTP_SEQ_MOD = highest / RTP_SEQ_MOD then List.range' (highest + 1) (n - (highest + 1)) else []).map
          frameSeqNo := by
  have updates := RTP.update_seq_later hooks rtp.derived numbered seq later near
  unfold RTP.updateMember
  dsimp only
  rw [if_pos sender, updates]
  by_cases same : n / RTP_SEQ_MOD = highest / RTP_SEQ_MOD
  · rw [if_pos same]
    by_cases gap : 1 < n - highest
    · rw [if_pos ⟨same, gap⟩]
      change ∃ _, (Except.ok (rtp.derived.handleDroppedPackets _ _) >>= _) = _ ∧ _
      rw [handleDroppedPackets_eq numbered later same]
      exact ⟨_, rfl, by rw [List.flatten_append, List.flatten_singleton]⟩
    · have none : n - (highest + 1) = 0 := by omega
      rw [if_neg fun both => gap both.2, none]
      exact ⟨_, rfl, (List.append_nil _).symm⟩
  · rw [if_neg same, if_neg fun both => same both.1]
    exact ⟨_, rfl, (List.append_nil _).symm⟩

/-- A number that is in no range leaves the ranges; otherwise one range loses it. -/
theorem flatten_notDropped (seqNo : BitVec 32) (ranges : List (List (BitVec 32))) :
    (notDropped seqNo ranges).flatten = ranges.flatten.erase seqNo := by
  induction ranges with
  | nil => rfl
  | cons range rest ih =>
      rw [notDropped, List.flatten_cons, List.erase_append]
      split
      · split
        · rw [‹range.erase seqNo = []›, List.nil_append]
        · rw [List.flatten_cons]
      · rw [List.flatten_cons, ih]

theorem updateMember_earlier (sender : (rtp.memberEntry raw p.ssrc).sender = true)
    (numbered : (rtp.memberEntry raw p.ssrc).Numbered highest) (seq : p.seqNo = BitVec.ofNat 16 n) (earlier : n < highest)
    (near : highest < n + MAX_MISORDER) {address : Nat} (receives : Receives rtp p address)
    (live : address ∈ rtp.derived.frames) :
    rtp.updateMember hooks raw p = .ok ({ rtp.derived with
        probableDropped := notDropped (frameSeqNo n) rtp.derived.probableDropped
        misordered := rtp.derived.misordered.push_back p.frame },
      { rtp.memberEntry raw p.ssrc with received := (rtp.memberEntry raw p.ssrc).received + 1 }, p, true) := by
  obtain ⟨f, stored⟩ := StdMap.mem_iff_exists.mp live
  cases receives.content f stored
  have number : p.frame.seqNo = frameSeqNo n := congrArg (BitVec.setWidth 32) seq
  have updates := RTP.update_seq_earlier hooks rtp.derived numbered seq earlier near
  have marks := handleMisorderedPackets_live (s := rtp.memberEntry raw p.ssrc) receives.plain receives.pointer stored
    (receives.first live)
  unfold RTP.updateMember
  dsimp only
  rw [if_pos sender, updates]
  change (rtp.derived.handleMisorderedPackets _ p >>= _) = _
  rw [marks, number]
  rfl

/-- Each packet that is looked at is one more received or one more lost. -/
theorem bufferFrame_counts (buffers : v.bufferFrame now f = .ok after) :
    ∃ buffered discarded : Nat, buffered + discarded = 1 ∧
      after.elastReceived = v.elastReceived + BitVec.ofNat 32 buffered ∧
      after.elossEvents.sum = v.elossEvents.sum + BitVec.ofNat 32 discarded := by
  have discards {v v' : RTPVoip} {seqNo : BitVec 32} (counts : v.countDiscard seqNo = .ok v') :
      v'.elastReceived = v.elastReceived ∧ v'.elossEvents.sum = v.elossEvents.sum + 1 := by
    have recorded : ¬ v.Stale := fun stale => by
      rw [countDiscard_stale stale] at counts
      cases counts
    obtain ⟨events, counts', sum, -⟩ := countDiscard_eq recorded seqNo
    cases counts.symm.trans counts'
    exact ⟨rfl, sum⟩
  unfold bufferFrame at buffers
  obtain ⟨timer, -, rest⟩ := bind_eq_ok.mp buffers
  split at rest
  · obtain ⟨received, lost⟩ := discards rest
    exact ⟨0, 1, rfl, received.trans (BitVec.add_zero _).symm, lost⟩
  · split at rest
    · unfold replaceFront at rest
      obtain ⟨discard, -, rest⟩ := bind_eq_ok.mp rest
      obtain ⟨-, -, rest⟩ := bind_eq_ok.mp rest
      obtain ⟨counted, counts, rest⟩ := bind_eq_ok.mp rest
      cases rest
      obtain ⟨received, lost⟩ := discards counts
      exact ⟨0, 1, rfl, received.trans (BitVec.add_zero _).symm, lost⟩
    · cases rest
      exact ⟨1, 0, rfl, rfl, (BitVec.add_zero _).symm⟩

/-- A packet that is less than a cycle away is accepted exactly when it is near. -/
theorem accepts_iff (sender : s.sender = true) (numbered : s.Numbered highest) (apart : n ≠ highest)
    (ahead : n ≤ highest + (RTP_SEQ_MOD - MAX_MISORDER)) (behind : highest + MAX_DROPOUT ≤ n + RTP_SEQ_MOD) :
    s.Accepts (BitVec.ofNat 16 n) ↔
      highest < n ∧ n < highest + MAX_DROPOUT ∨ n < highest ∧ highest < n + MAX_MISORDER := by
  have talks : s.sender ≠ false := by
    rw [sender]
    exact Bool.noConfusion
  unfold RTPMemberEntry.Accepts
  rw [or_iff_right talks, numbered.maxSeq, RTP.seq_eq_place, RTP.seq_eq_place]
  unfold RTP_SEQ_MOD MAX_DROPOUT MAX_MISORDER at *
  rcases Nat.lt_or_gt_of_ne apart with earlier | later
  · rw [SerialNumber.toNat_sub_place_earlier 0 earlier (by omega)]
    omega
  · rw [SerialNumber.toNat_sub_place 0 (Nat.le_of_lt later) (by omega)]
    omega

end RTPVoip

namespace VoipCount

/-- What is known of the sequence numbers: those before `stop` were looked at. -/
def Heard (entry : Option (BitVec 16 × BitVec 32 × BitVec 32)) (stop : Nat) : Prop :=
  if stop = 0 then entry = none
  else ∃ received, entry = some (BitVec.ofNat 16 (stop - 1), BitVec.ofNat 32 ((stop - 1) / RTP_SEQ_MOD * RTP_SEQ_MOD), received)

/-- What every run keeps: each packet since the last evaluation is counted once, as received, as discarded, as dropped
or as passed over without a record. -/
structure Counted (own source : BitVec 32) (c : VoipCount) : Prop extends VoipHistory.Sane source c.history where
  own : c.history.rtp.ssrc = own
  pointer : ∀ timer ∈ c.history.rtp.derived.playoutTimer, timer.contextPointer = source ∧ c.tally.stop ≠ 0
  heard : Heard (c.history.rtp.memberSet.counters source) c.tally.stop
  expected : c.history.rtp.derived.elastExpected = BitVec.ofNat 32 (c.tally.start - 1)
  dropped : c.history.rtp.derived.probableDropped.flatten.Perm (c.tally.recorded.map frameSeqNo)
  last : c.tally.stop ≠ 0 → c.tally.stop - 1 ∈ c.history.arrived
  before : c.tally.start ≠ 0 → c.tally.start - 1 ∈ c.history.before
  counts : ∃ buffered discarded : Nat, c.history.rtp.derived.elastReceived = BitVec.ofNat 32 buffered ∧
    c.history.rtp.derived.elossEvents.sum = BitVec.ofNat 32 discarded ∧
    c.tally.Accounts c.history.arrived (buffered + discarded)

variable {own source : BitVec 32} {c after : VoipCount} {e : VoipHistory.Event} {n : Nat} {p : RTPPacket}
  {now : SimTime} {raw : RTPMemberEntry}

theorem heard_zero {entry : Option (BitVec 16 × BitVec 32 × BitVec 32)} : Heard entry 0 ↔ entry = none :=
  iff_of_eq (if_pos rfl)

variable {rme : RTPMemberEntry}

theorem heard_succ (sender : rme.sender = true) (highest : Nat) :
    Heard rme.counters (highest + 1) ↔ rme.Numbered highest := by
  rw [Heard, if_neg (Nat.succ_ne_zero highest), Nat.add_sub_cancel]
  simp only [RTPMemberEntry.counters_eq_some]
  constructor
  · rintro ⟨received, -, maxSeq, cycles, -⟩
    exact ⟨maxSeq, cycles⟩
  · rintro ⟨maxSeq, cycles⟩
    exact ⟨_, sender, maxSeq, cycles, rfl⟩

theorem sender_of_heard {stop : Nat} (heard : Heard rme.counters stop) : rme.sender = true ↔ stop ≠ 0 := by
  unfold Heard at heard
  split at heard
  · rw [RTPMemberEntry.counters_eq_none.mp heard]
    simp [‹stop = 0›]
  · obtain ⟨received, counts⟩ := heard
    rw [(RTPMemberEntry.counters_eq_some.mp counts).1]
    simp [‹¬stop = 0›]

theorem clear_first (first : c.tally.stop = 0) : c.Clear (.arrival now raw n) ↔ n < RTP_SEQ_MOD :=
  iff_of_eq (if_pos first)

theorem clear_heard (heard : c.tally.stop ≠ 0) : c.Clear (.arrival now raw n) ↔
    n ≤ c.tally.stop - 1 + (RTP_SEQ_MOD - MAX_MISORDER) ∧ c.tally.stop - 1 + MAX_DROPOUT ≤ n + RTP_SEQ_MOD ∧
      (n < c.tally.stop → frameSeqNo n ∈ c.tally.recorded.map frameSeqNo → n ∈ c.tally.recorded) :=
  iff_of_eq (if_neg heard)

theorem counted_start (apart : source ≠ own) (raw : RTPMemberEntry) (params : VoipParams) :
    Counted own source (start own raw params) where
  toSane := VoipHistory.sane_start own raw params
  own := rfl
  pointer _ created := nomatch created
  heard := heard_zero.mpr ((MemberSet.counters_insert_ne apart.symm).trans rfl)
  expected := rfl
  dropped := List.Perm.refl _
  last some := absurd rfl some
  before some := absurd rfl some
  counts := ⟨0, 0, rfl, rfl, Tally.accounts_empty⟩

/-- What an accepted packet does to the numbers: the entry, the ranges of dropped packets and the tally -/
structure Counts (source : BitVec 32) (c : VoipCount) (n : Nat) (probableDropped : List (List (BitVec 32)))
    (rme : RTPMemberEntry) : Prop where
  heard : Heard rme.counters (arrive c.tally n).stop
  some : (arrive c.tally n).stop ≠ 0
  start : (arrive c.tally n).start = c.tally.start
  dropped : probableDropped.flatten.Perm ((arrive c.tally n).recorded.map frameSeqNo)
  last : (arrive c.tally n).stop - 1 ∈ n :: c.history.arrived
  accounts : ∀ count, c.tally.Accounts c.history.arrived count →
    (arrive c.tally n).Accounts (n :: c.history.arrived) (count + 1)

theorem heard_entry (counted : Counted own source c) (sent : c.history.sent[n]? = some p) (raw : RTPMemberEntry) :
    Heard (c.history.rtp.memberEntry raw p.ssrc).counters c.tally.stop := by
  rw [MemberSet.counters_memberEntry, (counted.sent n p sent).1]
  exact counted.heard

theorem counts_first (counted : Counted own source c) (sent : c.history.sent[n]? = some p) (first : c.tally.stop = 0)
    (cycle : n < RTP_SEQ_MOD) : ∃ probableDropped misordered rme, c.history.rtp.updateMember RTPVoip.hooks raw p =
      .ok ({ c.history.rtp.derived with probableDropped, misordered }, rme, p, true) ∧
      Counts source c n probableDropped rme := by
  have silent : (c.history.rtp.memberEntry raw p.ssrc).sender = false :=
    Bool.eq_false_iff.mpr fun sender => (sender_of_heard (heard_entry counted sent raw)).mp sender first
  have tally : arrive c.tally n = c.tally.jump false n := if_pos first
  have updates : c.history.rtp.updateMember RTPVoip.hooks raw p = .ok (c.history.rtp.derived,
      init_seq { c.history.rtp.memberEntry raw p.ssrc with sender := true } p.seqNo, p, true) := by
    unfold RTP.updateMember
    dsimp only
    rw [silent, if_neg Bool.false_ne_true]
  have none : n / RTP_SEQ_MOD * RTP_SEQ_MOD = 0 := by rw [Nat.div_eq_of_lt cycle, Nat.zero_mul]
  refine ⟨c.history.rtp.derived.probableDropped, c.history.rtp.derived.misordered, _, updates, ?_⟩
  refine ⟨?_, ?_, ?_, ?_, ?_, fun count accounts => ?_⟩
  all_goals rw [tally]
  · refine (heard_succ rfl n).mpr ⟨(counted.sent n p sent).2.1, ?_⟩
    rw [none]
    rfl
  · exact Nat.succ_ne_zero n
  · rfl
  · change List.Perm _ (List.map frameSeqNo (c.tally.recorded ++ []))
    rw [List.append_nil]
    exact counted.dropped
  · exact List.mem_cons_self
  · exact Tally.accounts_jump accounts (by omega)

/-- A later packet records the numbers it passes over, unless its own has wrapped. -/
theorem counts_later (counted : Counted own source c) (sent : c.history.sent[n]? = some p) (heard : c.tally.stop ≠ 0)
    (later : c.tally.stop ≤ n) (near : n < c.tally.stop - 1 + MAX_DROPOUT) :
    ∃ probableDropped misordered rme, c.history.rtp.updateMember RTPVoip.hooks raw p =
      .ok ({ c.history.rtp.derived with probableDropped, misordered }, rme, p, true) ∧
      Counts source c n probableDropped rme := by
  obtain ⟨highest, stop⟩ := Nat.exists_eq_succ_of_ne_zero heard
  have entry := heard_entry counted sent raw
  have sender := (sender_of_heard entry).mpr heard
  have tally : arrive c.tally n = c.tally.jump (n / RTP_SEQ_MOD = (c.tally.stop - 1) / RTP_SEQ_MOD) n := by
    rw [arrive, if_neg heard, if_pos later, if_pos near]
  rw [stop] at entry near
  rw [stop, Nat.succ_sub_one] at tally
  obtain ⟨probableDropped, updates, flat⟩ := RTPVoip.updateMember_later sender ((heard_succ sender highest).mp entry)
    (counted.sent n p sent).2.1 (by omega) near
  refine ⟨probableDropped, c.history.rtp.derived.misordered, _, updates, ?_⟩
  refine ⟨?_, ?_, ?_, ?_, ?_, fun count accounts => ?_⟩
  all_goals rw [tally]
  · exact (heard_succ (by exact sender) n).mpr ⟨rfl, rfl⟩
  · exact Nat.succ_ne_zero n
  · rfl
  · change List.Perm _ (List.map frameSeqNo (c.tally.recorded ++ if decide _ = true then List.range' c.tally.stop _ else []))
    rw [flat, List.map_append, stop]
    simp only [decide_eq_true_eq]
    exact counted.dropped.append_right _
  · exact List.mem_cons_self
  · exact Tally.accounts_jump accounts later

theorem counts_earlier (counted : Counted own source c) (sent : c.history.sent[n]? = some p)
    (arrives : c.Arrives (.arrival now raw n)) (clear : c.Clear (.arrival now raw n)) (heard : c.tally.stop ≠ 0)
    (earlier : n < c.tally.stop) (near : c.tally.stop - 1 < n + MAX_MISORDER) (live : n ∈ c.history.rtp.derived.frames) :
    ∃ probableDropped misordered rme, c.history.rtp.updateMember RTPVoip.hooks raw p =
      .ok ({ c.history.rtp.derived with probableDropped, misordered }, rme, p, true) ∧
      Counts source c n probableDropped rme := by
  obtain ⟨highest, stop⟩ := Nat.exists_eq_succ_of_ne_zero heard
  have entry := heard_entry counted sent raw
  have sender := (sender_of_heard entry).mpr heard
  have tally : arrive c.tally n = c.tally.fill n := by
    rw [arrive, if_neg heard, if_neg (Nat.not_le.mpr earlier), if_pos near]
  have apart : n ≠ c.tally.stop - 1 := fun same => arrives.1.2 (same ▸ counted.last heard)
  have begun : c.tally.start ≤ n := by
    by_cases first : c.tally.start = 0
    · omega
    · exact Nat.le_of_pred_lt (arrives.2 _ (counted.before first))
  have known := ((clear_heard heard).mp clear).2.2 earlier
  rw [stop] at entry near apart
  have updates := RTPVoip.updateMember_earlier sender ((heard_succ sender highest).mp entry) (counted.sent n p sent).2.1
    (by omega) near (VoipHistory.receives counted.toSane sent) live
  have stays : (c.tally.fill n).stop = c.tally.stop := by
    unfold Tally.fill
    split <;> rfl
  refine ⟨_, _, _, updates, ?_⟩
  refine ⟨?_, ?_, ?_, ?_, ?_, fun count accounts => ?_⟩
  all_goals rw [tally]
  · have numbered := (heard_succ sender highest).mp entry
    rw [stays, stop]
    exact (heard_succ (by exact sender) highest).mpr ⟨numbered.maxSeq, numbered.cycles⟩
  · rwa [stays]
  · unfold Tally.fill
    split <;> rfl
  · rw [RTPVoip.flatten_notDropped]
    refine (counted.dropped.erase _).trans ?_
    unfold Tally.fill
    by_cases recorded : n ∈ c.tally.recorded
    · have front := ((List.perm_cons_erase recorded).map frameSeqNo).erase (frameSeqNo n)
      rw [List.map_cons, List.erase_cons_head] at front
      rwa [if_pos recorded]
    · rw [if_neg recorded, List.erase_of_not_mem fun inside => recorded (known inside)]
  · rw [stays]
    exact List.mem_cons_of_mem n (counted.last heard)
  · exact Tally.accounts_fill accounts arrives.1.2 begun earlier

theorem counts_accepted (counted : Counted own source c) (sent : c.history.sent[n]? = some p)
    (arrives : c.Arrives (.arrival now raw n)) (clear : c.Clear (.arrival now raw n))
    (accepts : (c.history.rtp.memberEntry raw p.ssrc).Accepts p.seqNo) (live : n ∈ c.history.rtp.derived.frames) :
    ∃ probableDropped misordered rme, c.history.rtp.updateMember RTPVoip.hooks raw p =
      .ok ({ c.history.rtp.derived with probableDropped, misordered }, rme, p, true) ∧
      Counts source c n probableDropped rme := by
  by_cases first : c.tally.stop = 0
  · exact counts_first counted sent first ((clear_first first).mp clear)
  · obtain ⟨highest, stop⟩ := Nat.exists_eq_succ_of_ne_zero first
    have entry := heard_entry counted sent raw
    have sender := (sender_of_heard entry).mpr first
    have apart : n ≠ c.tally.stop - 1 := fun same => arrives.1.2 (same ▸ counted.last first)
    obtain ⟨ahead, behind, -⟩ := (clear_heard first).mp clear
    rw [stop] at entry ahead behind apart
    rw [(counted.sent n p sent).2.1, RTPVoip.accepts_iff sender ((heard_succ sender highest).mp entry) apart ahead behind]
      at accepts
    rcases accepts with ⟨later, near⟩ | ⟨earlier, near⟩
    · exact counts_later counted sent first (by omega) (by rwa [stop])
    · exact counts_earlier counted sent arrives clear first (by omega) (by rwa [stop]) live

theorem arrive_refused (counted : Counted own source c) (sent : c.history.sent[n]? = some p)
    (arrives : c.Arrives (.arrival now raw n)) (clear : c.Clear (.arrival now raw n))
    (refused : ¬ (c.history.rtp.memberEntry raw p.ssrc).Accepts p.seqNo) : arrive c.tally n = c.tally := by
  have entry := heard_entry counted sent raw
  have sender : (c.history.rtp.memberEntry raw p.ssrc).sender = true :=
    Bool.eq_true_of_not_eq_false fun silent => refused (.inl silent)
  have heard := (sender_of_heard entry).mp sender
  obtain ⟨highest, stop⟩ := Nat.exists_eq_succ_of_ne_zero heard
  have apart : n ≠ c.tally.stop - 1 := fun same => arrives.1.2 (same ▸ counted.last heard)
  obtain ⟨ahead, behind, -⟩ := (clear_heard heard).mp clear
  rw [stop] at entry ahead behind apart
  rw [(counted.sent n p sent).2.1, RTPVoip.accepts_iff sender ((heard_succ sender highest).mp entry) apart ahead behind]
    at refused
  unfold arrive
  rw [if_neg heard, stop, Nat.succ_sub_one]
  split
  · rw [if_neg fun near => refused (.inl ⟨by omega, near⟩)]
  · rw [if_neg fun near => refused (.inr ⟨by omega, near⟩)]

theorem pointer_opened {v : RTPVoip} {ssrc : BitVec 32} {timestamp : SimTime}
    (pointer : ∀ timer ∈ v.playoutTimer, timer.contextPointer = source) (own : ssrc = source) :
    ∀ timer ∈ (v.opened now ssrc timestamp).playoutTimer, timer.contextPointer = source := by
  unfold RTPVoip.opened
  split
  · intro timer created
    cases created
    cases stored : v.playoutTimer with
    | none => exact own
    | some timer => exact pointer timer stored
  · exact pointer

theorem elastExpected_opened {v : RTPVoip} (ssrc : BitVec 32) (timestamp : SimTime) :
    (v.opened now ssrc timestamp).elastExpected = v.elastExpected := by
  unfold RTPVoip.opened
  split <;> rfl

variable {out : VoipHistory.Output}

theorem counted_arrival {history : VoipHistory} (counted : Counted own source c)
    (admits : c.Admits (.arrival now raw n)) (steps : c.history.step source (.arrival now raw n) = .ok (history, out)) :
    Counted own source ⟨history, arrive c.tally n⟩ := by
  have sane := VoipHistory.sane_arrival counted.toSane steps
  obtain ⟨p, found, rest⟩ := bind_eq_ok.mp steps
  obtain ⟨rtp, processes, rest⟩ := bind_eq_ok.mp rest
  have sent := (deref_eq_ok _ _ _).mp found
  have ssrc := (counted.sent n p sent).1
  obtain ⟨buffered, discarded, received, lost, accounts⟩ := counted.counts
  cases rest
  rcases RTPVoip.processRTP_cases (VoipHistory.receives counted.toSane sent) processes with
    ⟨refused, badSeq, rfl⟩ | ⟨accepts, live, probableDropped, misordered, rme, opened, updates, -, buffers, rfl⟩
  · rw [arrive_refused counted sent admits.1 admits.2 refused]
    refine ⟨sane, counted.own, counted.pointer, ?_, counted.expected, counted.dropped, ?_, counted.before, ?_⟩
    · have entry := heard_entry counted sent raw
      change Heard (MemberSet.counters (c.history.rtp.memberSet.insert p.ssrc _) source) c.tally.stop
      rw [ssrc, MemberSet.counters_insert_self]
      rw [ssrc] at entry
      exact entry
    · exact fun heard => List.mem_cons_of_mem n (counted.last heard)
    · exact ⟨buffered, discarded, received, lost, accounts.weaken n⟩
  · obtain ⟨probableDropped', misordered', rme', updates', counts⟩ :=
      counts_accepted counted sent admits.1 admits.2 accepts live
    cases updates.symm.trans updates'
    obtain ⟨received', lost', one, receives, loses⟩ := RTPVoip.bufferFrame_counts buffers
    obtain ⟨cb, db, flag, elossEvents, elastReceived, rfl⟩ := RTPVoip.bufferFrame_shape buffers
    refine ⟨sane, counted.own, ?_, ?_, ?_, ?_, fun _ => counts.last, ?_, ?_⟩
    · have owns : ∀ timer ∈ c.history.rtp.derived.playoutTimer, timer.contextPointer = source :=
        fun timer created => (counted.pointer timer created).1
      intro timer created
      change timer ∈ (RTPVoip.opened _ now p.ssrc p.timestamp).playoutTimer at created
      exact ⟨pointer_opened (by exact owns) ssrc timer created, counts.some⟩
    · change Heard (MemberSet.counters (c.history.rtp.memberSet.insert p.ssrc _) source) _
      rw [ssrc, MemberSet.counters_insert_self]
      exact counts.heard
    · change (RTPVoip.opened _ now p.ssrc p.timestamp).elastExpected = _
      rw [elastExpected_opened, counts.start]
      exact counted.expected
    · change List.Perm (RTPVoip.probableDropped (RTPVoip.opened _ now p.ssrc p.timestamp)).flatten _
      rw [RTPVoip.opened_with]
      exact counts.dropped
    · change (arrive c.tally n).start ≠ 0 → (arrive c.tally n).start - 1 ∈ c.history.before
      rw [counts.start]
      exact counted.before
    · change ∃ buffered discarded : Nat, elastReceived = _ ∧ elossEvents.sum = _ ∧ _
      change elastReceived = (RTPVoip.opened _ now p.ssrc p.timestamp).elastReceived + _ at receives
      change elossEvents.sum = (RTPVoip.opened _ now p.ssrc p.timestamp).elossEvents.sum + _ at loses
      rw [RTPVoip.elastReceived_opened] at receives
      rw [RTPVoip.elossEvents_opened] at loses
      refine ⟨buffered + received', discarded + lost', ?_, ?_, ?_⟩
      · rw [receives, BitVec.ofNat_add, ← received]
      · rw [loses, BitVec.ofNat_add, ← lost]
      · have total : buffered + received' + (discarded + lost') = buffered + discarded + 1 := by omega
        rw [total]
        exact counts.accounts _ accounts

theorem Counted.keep {h : VoipHistory} (counted : Counted own source c) (sane : VoipHistory.Sane source h)
    (ssrc : h.rtp.ssrc = c.history.rtp.ssrc)
    (pointer : ∀ timer ∈ h.rtp.derived.playoutTimer, timer.contextPointer = source ∧ c.tally.stop ≠ 0)
    (counters : h.rtp.memberSet.counters source = c.history.rtp.memberSet.counters source)
    (expected : h.rtp.derived.elastExpected = c.history.rtp.derived.elastExpected)
    (dropped : h.rtp.derived.probableDropped = c.history.rtp.derived.probableDropped)
    (received : h.rtp.derived.elastReceived = c.history.rtp.derived.elastReceived)
    (events : h.rtp.derived.elossEvents = c.history.rtp.derived.elossEvents) (since : h.since = c.history.since)
    (before : h.before = c.history.before) : Counted own source ⟨h, c.tally⟩ where
  toSane := sane
  own := ssrc.trans counted.own
  pointer := pointer
  heard := by
    change Heard (h.rtp.memberSet.counters source) c.tally.stop
    rw [counters]
    exact counted.heard
  expected := expected.trans counted.expected
  dropped := by
    change h.rtp.derived.probableDropped.flatten.Perm _
    rw [dropped]
    exact counted.dropped
  last heard := by
    change _ ∈ h.since ++ h.before
    rw [since, before]
    exact counted.last heard
  before begun := by
    change _ ∈ h.before
    rw [before]
    exact counted.before begun
  counts := by
    obtain ⟨buffered, discarded, buffers, discards, accounts⟩ := counted.counts
    refine ⟨buffered, discarded, received.trans buffers, (congrArg List.sum events).trans discards, ?_⟩
    change c.tally.Accounts (h.since ++ h.before) _
    rw [since, before]
    exact accounts

theorem playout_keeps {v v' : RTPVoip} {frame : VoipFrame} (plays : RTPVoip.playoutBufferedPacket now v = .ok (v', frame)) :
    v'.elastExpected = v.elastExpected ∧ v'.probableDropped = v.probableDropped ∧ v'.elastReceived = v.elastReceived ∧
      v'.elossEvents = v.elossEvents ∧
      ∀ timer ∈ v'.playoutTimer, ∃ timer' ∈ v.playoutTimer, timer.contextPointer = timer'.contextPointer := by
  rcases RTPVoip.playout_cases plays with ⟨-, rfl⟩ | ⟨next, rest, timer, -, created, -, rfl⟩
  · exact ⟨rfl, rfl, rfl, rfl, fun timer created => ⟨timer, created, rfl⟩⟩
  · refine ⟨rfl, rfl, rfl, rfl, fun timer' created' => ?_⟩
    cases created'
    exact ⟨timer, created, rfl⟩

theorem counted_playout {history : VoipHistory} (counted : Counted own source c)
    (steps : c.history.step source (.playout now) = .ok (history, out)) : Counted own source ⟨history, c.tally⟩ := by
  have sane := VoipHistory.sane_playout counted.toSane steps
  obtain ⟨v, frame, plays, rfl, rfl⟩ := VoipHistory.playout_inv steps
  obtain ⟨expected, dropped, received, events, timers⟩ := playout_keeps plays
  refine counted.keep sane rfl (fun timer created => ?_) rfl expected dropped received events rfl rfl
  obtain ⟨fired, created', same⟩ := timers timer created
  obtain ⟨timer', created'', rfl⟩ := Option.map_eq_some_iff.mp created'
  rw [same]
  exact counted.pointer timer' created''

theorem other_counters {rtp rtp' : RTP RTPVoip} {event : RTP.Event} (quiet : ∀ now raw p, event ≠ .rtp now raw p)
    (apart : source ≠ rtp.ssrc) (steps : rtp.step RTPVoip.hooks event = .ok rtp') :
    rtp'.ssrc = rtp.ssrc ∧ rtp'.memberSet.counters source = rtp.memberSet.counters source := by
  cases event with
  | rtp now raw p => exact absurd rfl (quiet now raw p)
  | rtcp raw rtcp =>
      cases steps
      obtain ⟨ssrc, kind⟩ := rtcp
      have inserted : MemberSet.counters (rtp.memberSet.insert ssrc (rtp.memberEntry raw ssrc)) source =
          rtp.memberSet.counters source := by
        by_cases same : ssrc = source
        · rw [same, MemberSet.counters_insert_self, MemberSet.counters_memberEntry]
        · exact MemberSet.counters_insert_ne same
      cases kind with
      | goodBye | receiverReport | sdes => exact ⟨rfl, inserted⟩
      | senderReport timestamp =>
          refine ⟨rfl, ?_⟩
          change MemberSet.counters ((rtp.memberSet.insert ssrc (rtp.memberEntry raw ssrc)).insert ssrc _) source = _
          by_cases same : ssrc = source
          · rw [same, MemberSet.counters_insert_self, ← MemberSet.counters_memberEntry rtp raw source]
            rfl
          · rw [MemberSet.counters_insert_ne same, inserted]
  | rtcpTimeout now =>
      cases steps
      refine ⟨rfl, (MemberSet.observed_map (g := id) fun rme => ?_).trans (congrFun Option.map_id _)⟩
      rw [Option.map_id]
      split <;> rfl
  | rtpTimeout raw =>
      cases steps
      exact ⟨rfl, MemberSet.counters_insert_ne apart.symm⟩

theorem entry_of_timer {timer : PlayoutTimer} (counted : Counted own source c)
    (created : c.history.rtp.derived.playoutTimer = some timer)
    (stored : c.history.rtp.memberSet[timer.contextPointer]? = some rme) :
    c.tally.stop ≠ 0 ∧ rme.Numbered (c.tally.stop - 1) := by
  obtain ⟨same, some⟩ := counted.pointer timer created
  have heard := counted.heard
  unfold MemberSet.counters at heard
  rw [← same, stored] at heard
  obtain ⟨highest, stop⟩ := Nat.exists_eq_succ_of_ne_zero some
  rw [stop] at heard
  refine ⟨some, ?_⟩
  rw [stop]
  exact (heard_succ ((sender_of_heard heard).mpr (Nat.succ_ne_zero highest)) highest).mp heard

theorem counted_evaluate {history : VoipHistory} (counted : Counted own source c)
    (due : c.history.rtp.derived.emodelTimer = some now) (sane : VoipHistory.Sane source history)
    (steps : c.history.step source (.evaluate now) = .ok (history, out)) :
    Counted own source ⟨history, c.tally.restart⟩ := by
  obtain ⟨timer, rme, created, stored, rfl, rfl⟩ := VoipHistory.evaluate_inv counted.toSane due steps
  obtain ⟨some, numbered⟩ := entry_of_timer counted created stored
  exact {
    toSane := sane
    own := counted.own
    pointer := fun timer created => ⟨(counted.pointer timer created).1, some⟩
    heard := counted.heard
    expected := RTP.highest_eq numbered
    dropped := List.Perm.refl _
    last := fun _ => counted.last some
    before := fun _ => counted.last some
    counts := ⟨0, 0, rfl, rfl, Tally.accounts_restart _ _⟩ }

theorem counted_step (apart : source ≠ own) (counted : Counted own source c) (admits : c.Admits e)
    (steps : c.next source e = .ok after) : Counted own source after := by
  obtain ⟨history, follows, rfl⟩ := map_eq_ok steps
  obtain ⟨⟨history, out⟩, stepped, rfl⟩ := map_eq_ok follows
  have sane := VoipHistory.sane_step counted.toSane admits.1.1.1 stepped
  cases e with
  | send now =>
      cases stepped
      exact counted.keep sane rfl counted.pointer rfl rfl rfl rfl rfl rfl rfl
  | arrival now raw n => exact counted_arrival counted admits stepped
  | playout now => exact counted_playout counted stepped
  | evaluate now => exact counted_evaluate counted admits.1.1.1.2 sane stepped
  | other event =>
      obtain ⟨rtp, changed, rest⟩ := bind_eq_ok.mp stepped
      cases rest
      have quiet : ∀ now raw p, event ≠ .rtp now raw p := by
        rintro now raw p rfl
        exact admits.1.1.1.2
      obtain ⟨same, -⟩ := VoipHistory.other_keeps quiet changed
      obtain ⟨ssrc, counters⟩ := other_counters quiet (by rwa [counted.own]) changed
      have pointer : ∀ timer ∈ rtp.derived.playoutTimer, timer.contextPointer = source ∧ c.tally.stop ≠ 0 := by
        rw [same]
        exact counted.pointer
      exact counted.keep sane ssrc pointer counters (congrArg RTPVoip.elastExpected same)
        (congrArg RTPVoip.probableDropped same) (congrArg RTPVoip.elastReceived same)
        (congrArg RTPVoip.elossEvents same) rfl rfl

theorem counted_runs {params : VoipParams} {es : List VoipHistory.Event} (apart : source ≠ own) (raw : RTPMemberEntry)
    (runs : Runs (next source) Admits (start own raw params) es c) : Counted own source c :=
  runs.invariant _ (fun _ _ _ counted admits steps => counted_step apart counted admits steps)
    (counted_start apart raw params)

theorem sum_lengths (ranges : List (List (BitVec 32))) :
    (ranges.map fun range => BitVec.ofNat 32 range.length).sum = BitVec.ofNat 32 ranges.flatten.length := by
  induction ranges with
  | nil => rfl
  | cons range rest ih => rw [List.map_cons, List.sum_cons, ih, List.flatten_cons, List.length_append, BitVec.ofNat_add]

theorem expected_eq (counted : Counted own source c) (some : c.tally.stop ≠ 0)
    (numbered : rme.Numbered (c.tally.stop - 1)) : (c.history.rtp.derived.evaluation rme).expected =
      BitVec.ofNat 32 (c.tally.width + if c.tally.start = 0 ∨ BitVec.ofNat 32 (c.tally.start - 1) ≠ 0 then 0 else 1) := by
  obtain ⟨buffered, discarded, -, -, accounts⟩ := counted.counts
  have order := accounts.order
  unfold RTPVoip.evaluation
  dsimp only
  rw [RTP.highest_eq numbered, counted.expected]
  by_cases first : c.tally.start = 0
  · have all : c.tally.width + 0 = c.tally.stop - 1 + 1 := by
      unfold Tally.width
      omega
    have zero : BitVec.ofNat 32 (0 - 1) = 0 := rfl
    rw [first, if_pos zero, if_pos (.inl rfl), all, BitVec.ofNat_add]
    exact congrArg (· + 1) (BitVec.sub_zero _)
  · have parts : c.tally.stop - 1 = c.tally.width + (c.tally.start - 1) := by
      unfold Tally.width
      omega
    rw [parts, BitVec.ofNat_add, BitVec.add_sub_cancel]
    by_cases zero : BitVec.ofNat 32 (c.tally.start - 1) = 0
    · rw [if_pos zero, if_neg fun either => either.elim first fun apart => apart zero, BitVec.ofNat_add]
      rfl
    · rw [if_neg zero, if_pos (.inr zero)]
      rfl

/-- The evaluation is right exactly when everything passed over without a record has come in, the number 0 is not counted
twice, and something was received. -/
theorem balanced_iff (counted : Counted own source c) (some : c.tally.stop ≠ 0)
    (numbered : rme.Numbered (c.tally.stop - 1)) (few : c.tally.width < 2 ^ 31) :
    (c.history.rtp.derived.evaluation rme).Balanced ↔ c.Settled := by
  have expects := expected_eq counted some numbered
  obtain ⟨buffered, discarded, receives, discards, accounts⟩ := counted.counts
  have total := accounts.total
  have events : (c.history.rtp.derived.evaluation rme).elossEvents.sum =
      BitVec.ofNat 32 (discarded + c.tally.recorded.length) := by
    have dropped := counted.dropped.length_eq
    rw [List.length_map] at dropped
    unfold RTPVoip.evaluation
    rw [List.sum_append, discards, sum_lengths, dropped, BitVec.ofNat_add]
  have received : (c.history.rtp.derived.evaluation rme).received = BitVec.ofNat 32 buffered := receives
  have sum : (c.history.rtp.derived.evaluation rme).received + (c.history.rtp.derived.evaluation rme).elossEvents.sum =
      BitVec.ofNat 32 (buffered + discarded + c.tally.recorded.length) := by
    rw [received, events, ← BitVec.ofNat_add, Nat.add_assoc]
  have same {a b : Nat} (small : a < 2 ^ 32) (small' : b < 2 ^ 32) (same : BitVec.ofNat 32 a = BitVec.ofNat 32 b) : a = b := by
    have values := congrArg BitVec.toNat same
    rwa [BitVec.toNat_ofNat, BitVec.toNat_ofNat, Nat.mod_eq_of_lt small, Nat.mod_eq_of_lt small'] at values
  constructor
  · intro balanced
    have equal := balanced.expected
    rw [sum, expects] at equal
    refine ⟨?_, ?_, fun none => ?_⟩
    · have equal := same (by split <;> omega) (by omega) equal
      exact List.length_eq_zero_iff.mp (by omega)
    · by_contra twice
      rw [if_neg twice] at equal
      have equal := same (by omega) (by omega) equal
      omega
    · have received : (c.history.rtp.derived.evaluation rme).received = 0 := none
      have events : (c.history.rtp.derived.evaluation rme).elossEvents = [] :=
        not_imp_comm.mp balanced.receives (not_not.mpr received)
      refine balanced.expects ?_
      rw [balanced.expected, received, events]
      rfl
  · intro settled
    have some : buffered ≠ 0 := fun none => settled.buffered (by rw [receives, none]; rfl)
    have all := accounts.width_eq_iff.mpr settled.unrecorded
    rw [if_pos settled.counted, Nat.add_zero] at expects
    refine ⟨?_, ?_, ?_, fun _ => settled.buffered⟩
    · rw [expects, sum, all]
    · have lost : (c.history.rtp.derived.evaluation rme).lost = ((discarded + c.tally.recorded.length : Nat) : Int) := by
        unfold Evaluation.lost
        rw [events, BitVec.toInt_ofNat', Int.bmod_eq_of_le (by omega) (by omega)]
      have expected : (c.history.rtp.derived.evaluation rme).expected.toNat = c.tally.width := by
        rw [expects, BitVec.toNat_ofNat, Nat.mod_eq_of_lt (by omega)]
      unfold Evaluation.ppl
      rw [lost, expected, Int.cast_natCast]
      refine ⟨div_nonneg (Nat.cast_nonneg _) (Nat.cast_nonneg _), (div_le_one ?_).mpr ?_⟩
      · exact Nat.cast_pos.mpr (by omega)
      · exact Nat.cast_le.mpr (by omega)
    · rw [expects]
      intro none
      have none := same (b := 0) (by omega) (by omega) none
      omega

end VoipCount

open VoipCount in
/-- In every run in which the sequence numbers say which packets they are, an evaluation finds the packets expected to
be those received and those lost, without a division by 0, exactly when all that were passed over without a record have
arrived, the highest number before was not 0, and a frame was buffered. -/
theorem voip_losses {own source : BitVec 32} (apart : source ≠ own) (raw : RTPMemberEntry) (params : VoipParams)
    {es : List VoipHistory.Event} {c : VoipCount} (runs : Runs (next source) Admits (start own raw params) es c)
    {now : SimTime} (admits : c.Admits (.evaluate now)) (few : c.tally.width < 2 ^ 31) :
    ∃ after evaluation, c.history.step source (.evaluate now) = .ok (after, .evaluated evaluation) ∧
      (evaluation.Balanced ↔ c.Settled) := by
  have counted := counted_runs apart raw runs
  obtain ⟨⟨after, out⟩, steps⟩ := VoipHistory.evaluate_returns counted.toSane admits.1.1.1.2
  obtain ⟨timer, rme, created, stored, -, rfl⟩ := VoipHistory.evaluate_inv counted.toSane admits.1.1.1.2 steps
  obtain ⟨some, numbered⟩ := entry_of_timer counted created stored
  exact ⟨after, _, steps, balanced_iff counted some numbered few⟩

/-- Packet 3 comes before packet 1, and packet 2 is lost. -/
def exampleReordered : List VoipHistory.Event :=
  [.send 1, .send (51 / 50), .send (26 / 25), .send (53 / 50), .arrival (11 / 10) exampleEntry 0,
    .arrival (28 / 25) exampleEntry 3, .arrival (113 / 100) exampleEntry 1, .playout (29 / 25), .playout (59 / 50),
    .playout (61 / 50)]

open VoipCount in
theorem voip_losses_reordered : ∃ c after evaluation,
    Runs (next 7) Admits (start 1 exampleEntry exampleVoip) exampleReordered c ∧
      c.history.step 7 (.evaluate (311 / 10)) = .ok (after, .evaluated evaluation) ∧ evaluation.Balanced ∧
      evaluation = ⟨4, 3, [1]⟩ := by
  have checked : (do
      let c ← run (fun c e => Exec.assert (Admits c e) >>= fun _ => next 7 c e) (start 1 exampleEntry exampleVoip)
        exampleReordered
      let after ← c.history.step 7 (.evaluate (311 / 10))
      return decide (c.Admits (.evaluate (311 / 10)) ∧ c.tally = ⟨0, 4, [2], []⟩ ∧
        c.history.rtp.derived.elastReceived ≠ 0 ∧ after.2 = .evaluated ⟨4, 3, [1]⟩) : Exec Bool) = .ok true := by
    decide +kernel
  obtain ⟨c, runs, outcome⟩ := bind_eq_ok.mp checked
  obtain ⟨⟨after, out⟩, steps, outcome⟩ := bind_eq_ok.mp outcome
  obtain ⟨admits, tally, buffered, same⟩ := of_decide_eq_true (Except.ok.inj outcome)
  obtain ⟨after', evaluation, steps', balanced⟩ :=
    voip_losses (by decide) exampleEntry exampleVoip (Runs.of_checked runs) admits (by rw [tally]; decide)
  cases steps.symm.trans steps'
  cases same
  exact ⟨c, after, _, Runs.of_checked runs, steps, balanced.mpr ⟨by rw [tally], .inl (by rw [tally]), buffered⟩, rfl⟩

open VoipCount in
/-- A packet that is lost before the first one is expected but not lost. Number 0 is expected in the second interval as
well, where it was the highest one of the first. Without any packets the ratio is one of 0. -/
theorem voip_losses_fails :
    (∃ c after, Runs (next 7) Arrives (start 1 exampleEntry exampleVoip)
        [.send 1, .send (51 / 50), .arrival (11 / 10) exampleEntry 1, .playout (29 / 25)] c ∧
      c.Arrives (.evaluate (311 / 10)) ∧
      c.history.step 7 (.evaluate (311 / 10)) = .ok (after, .evaluated ⟨2, 1, []⟩)) ∧
    (∃ c after, Runs (next 7) Arrives (start 1 exampleEntry exampleVoip)
        [.send 1, .arrival (11 / 10) exampleEntry 0, .playout (29 / 25), .evaluate (311 / 10), .send 32,
          .arrival (321 / 10) exampleEntry 1, .playout (804 / 25)] c ∧
      c.Arrives (.evaluate (611 / 10)) ∧
      c.history.step 7 (.evaluate (611 / 10)) = .ok (after, .evaluated ⟨2, 1, []⟩)) ∧
    (∃ c after, Runs (next 7) Arrives (start 1 exampleEntry exampleVoip)
        [.send 1, .send (51 / 50), .arrival (11 / 10) exampleEntry 0, .arrival (28 / 25) exampleEntry 1,
          .playout (29 / 25), .playout (59 / 50), .evaluate (311 / 10)] c ∧
      c.Arrives (.evaluate (611 / 10)) ∧
      c.history.step 7 (.evaluate (611 / 10)) = .ok (after, .evaluated ⟨0, 0, []⟩)) ∧
    ¬ (⟨2, 1, []⟩ : Evaluation).Balanced ∧ ¬ (⟨0, 0, []⟩ : Evaluation).Balanced := by
  have evaluates {es : List VoipHistory.Event} {now : SimTime} {evaluation : Evaluation}
      (checked : (do
        let c ← run (fun c e => Exec.assert (Arrives c e) >>= fun _ => next 7 c e) (start 1 exampleEntry exampleVoip) es
        let after ← c.history.step 7 (.evaluate now)
        return decide (c.Arrives (.evaluate now) ∧ after.2 = .evaluated evaluation) : Exec Bool) = .ok true) :
      ∃ c after, Runs (next 7) Arrives (start 1 exampleEntry exampleVoip) es c ∧ c.Arrives (.evaluate now) ∧
        c.history.step 7 (.evaluate now) = .ok (after, .evaluated evaluation) := by
    obtain ⟨c, runs, outcome⟩ := bind_eq_ok.mp checked
    obtain ⟨⟨after, out⟩, steps, outcome⟩ := bind_eq_ok.mp outcome
    obtain ⟨arrives, same⟩ := of_decide_eq_true (Except.ok.inj outcome)
    cases same
    exact ⟨c, after, Runs.of_checked runs, arrives, steps⟩
  refine ⟨evaluates ?_, evaluates ?_, evaluates ?_, fun balanced => ?_, fun balanced => balanced.expects rfl⟩
  · decide +kernel
  · decide +kernel
  · decide +kernel
  · exact absurd balanced.expected (by decide)

end IPv6Suite
