import IPv6Suite.RTPSequence

namespace IPv6Suite

open Lib

/-- The highest number received from a source and how many of its packets were, without bounds, and what the last report
had of them -/
structure RTPTotals where
  highest : Nat
  received : Nat
  expectedPrior : Nat
  receivedPrior : Nat

namespace RTPTotals

def first (n : Nat) : RTPTotals := ⟨n % RTP_SEQ_MOD, 1, 0, 0⟩

/-- How far a packet is behind the highest one -/
def udelta (t : RTPTotals) (n : Nat) : Nat := (n + (RTP_SEQ_MOD - t.highest % RTP_SEQ_MOD)) % RTP_SEQ_MOD

def receive (t : RTPTotals) (n : Nat) : RTPTotals :=
  if t.udelta n < MAX_DROPOUT then { t with highest := t.highest + t.udelta n, received := t.received + 1 }
  else if t.udelta n ≤ RTP_SEQ_MOD - MAX_MISORDER then t
  else { t with received := t.received + 1 }

def report (t : RTPTotals) : RTPTotals := { t with expectedPrior := t.highest + 1, receivedPrior := t.received }

def expectedInt (t : RTPTotals) : Nat := t.highest + 1 - t.expectedPrior

def receivedInt (t : RTPTotals) : Nat := t.received - t.receivedPrior

structure Ordered (t : RTPTotals) : Prop where
  heard : 0 < t.received
  expected : t.expectedPrior ≤ t.highest + 1
  received : t.receivedPrior ≤ t.received

structure Reported (t : RTPTotals) (block : RTCPReportBlock) : Prop where
  fraction : block.fractionLost.toInt = ((256 * (t.expectedInt - t.receivedInt) / t.expectedInt : Nat) : Int)
  byte : 0 ≤ block.fractionLost.toInt ∧ block.fractionLost.toInt ≤ 255
  lost : block.cumPacketsLost.toNat ≤ t.highest + 1

/-- The first packet was reported before; since then none is expected, or some are received and not more than are
expected; in all at most one more is received than is expected; and the numbers fit. -/
structure Plain (t : RTPTotals) : Prop where
  later : 0 < t.receivedPrior
  interval : t.expectedInt = 0 ∨ 0 < t.receivedInt ∧ t.receivedInt ≤ t.expectedInt
  small : t.expectedInt - t.receivedInt < 2 ^ 24
  total : t.received ≤ t.highest + 2
  fits : t.highest + 1 < 2 ^ 32

end RTPTotals

/-- The module with the totals of one source -/
structure RTPReports where
  rtp : RTP Unit
  totals : Option RTPTotals

namespace RTPReports

open RTPHistory (Event)

def start (own : BitVec 32) (raw : RTPMemberEntry) : RTPReports := ⟨RTP.start own raw (), none⟩

def next (source : BitVec 32) (totals : Option RTPTotals) : Event → Option RTPTotals
  | .packet n .. => some (totals.elim (.first n) (·.receive n))
  | .other (.rtcpTimeout _) => totals.map (·.report)
  | .other event => if (Event.other event).leaves source then none else totals

def step (source : BitVec 32) (h : RTPReports) (e : Event) : Exec RTPReports :=
  (h.rtp.step RTP.hooks (e.rtpEvent source)).map fun rtp => ⟨rtp, next source h.totals e⟩

/-- The other packets are from other sources. -/
def Apart (source : BitVec 32) : Event → Prop
  | .other (.rtp _ _ rtpData) => rtpData.ssrc ≠ source
  | _ => True

instance (source : BitVec 32) : (e : Event) → Decidable (Apart source e)
  | .other (.rtp ..) => inferInstanceAs (Decidable (_ ≠ _))
  | .packet .. | .other (.rtcp ..) | .other (.rtcpTimeout ..) | .other (.rtpTimeout ..) => isTrue trivial

structure Counters where
  maxSeq : BitVec 16
  cycles : BitVec 32
  received : BitVec 32
  expectedPrior : BitVec 32
  receivedPrior : BitVec 32

def counters (rme : RTPMemberEntry) : Option Counters :=
  if rme.sender then some ⟨rme.maxSeq, rme.cycles, rme.received, rme.expectedPrior, rme.receivedPrior⟩ else none

/-- The first packet is not counted. -/
def counted (t : RTPTotals) : Counters where
  maxSeq := BitVec.ofNat 16 t.highest
  cycles := BitVec.ofNat 32 (t.highest / RTP_SEQ_MOD * RTP_SEQ_MOD)
  received := BitVec.ofNat 32 (t.received - 1)
  expectedPrior := BitVec.ofNat 32 t.expectedPrior
  receivedPrior := BitVec.ofNat 32 (t.receivedPrior - 1)

def Counters.report (c : Counters) : Counters :=
  { c with expectedPrior := c.cycles + c.maxSeq.setWidth 32 + 1, receivedPrior := c.received }

variable {own source : BitVec 32} {h : RTPReports} {t : RTPTotals} {n : Nat}

theorem counters_silent (rme : RTPMemberEntry) (silent : rme.sender = false) : counters rme = none := by
  rw [counters, silent]
  rfl

theorem extended_counted : (counted t).cycles + (counted t).maxSeq.setWidth 32 + 1 = BitVec.ofNat 32 (t.highest + 1) := by
  apply BitVec.eq_of_toNat_eq
  have one : (1 : BitVec 32).toNat = 1 := rfl
  simp only [counted, RTP_SEQ_MOD, BitVec.toNat_add, BitVec.toNat_setWidth, BitVec.toNat_ofNat, one]
  omega

theorem udelta_counted : (BitVec.ofNat 16 n - (counted t).maxSeq).toNat = t.udelta n := by
  rw [counted, BitVec.toNat_sub, BitVec.toNat_ofNat, BitVec.toNat_ofNat]
  unfold RTPTotals.udelta RTP_SEQ_MOD
  omega

theorem near_counted (near : t.udelta n < MAX_DROPOUT) :
    (counted { t with highest := t.highest + t.udelta n }).maxSeq = BitVec.ofNat 16 n ∧
      (counted { t with highest := t.highest + t.udelta n }).cycles =
        if BitVec.ofNat 16 n < (counted t).maxSeq then (counted t).cycles + BitVec.ofNat 32 RTP_SEQ_MOD
        else (counted t).cycles := by
  have value : (t.highest + t.udelta n) % RTP_SEQ_MOD = n % RTP_SEQ_MOD := by
    unfold RTPTotals.udelta RTP_SEQ_MOD
    omega
  unfold MAX_DROPOUT at near
  unfold RTP_SEQ_MOD at value
  unfold counted RTP_SEQ_MOD
  constructor
  · apply BitVec.eq_of_toNat_eq
    rw [BitVec.toNat_ofNat, BitVec.toNat_ofNat]
    exact value
  · dsimp only
    split
    · rename_i wraps
      rw [BitVec.lt_def, BitVec.toNat_ofNat, BitVec.toNat_ofNat] at wraps
      rw [← BitVec.ofNat_add]
      exact congrArg (BitVec.ofNat 32) (by omega)
    · rename_i stays
      rw [BitVec.lt_def, BitVec.toNat_ofNat, BitVec.toNat_ofNat] at stays
      exact congrArg (BitVec.ofNat 32) (by omega)

theorem first_counted : (⟨BitVec.ofNat 16 n, 0, 0, 0, 0⟩ : Counters) = counted (.first n) := by
  have small : n % RTP_SEQ_MOD / RTP_SEQ_MOD = 0 := Nat.div_eq_of_lt (Nat.mod_lt n (by decide))
  have value : BitVec.ofNat 16 (n % RTP_SEQ_MOD) = BitVec.ofNat 16 n := by
    apply BitVec.eq_of_toNat_eq
    rw [BitVec.toNat_ofNat, BitVec.toNat_ofNat]
    exact Nat.mod_mod n RTP_SEQ_MOD
  unfold counted RTPTotals.first
  rw [small, value]
  rfl

theorem counted_report : (counted t).report = counted t.report := by
  unfold Counters.report
  rw [extended_counted]
  rfl

/-- What every run keeps -/
structure Follows (own source : BitVec 32) (h : RTPReports) : Prop where
  own : h.rtp.ssrc = own
  ordered : ∀ t ∈ h.totals, t.Ordered
  seen : h.rtp.memberSet.observed counters source = h.totals.map counted

theorem follows_start (raw : RTPMemberEntry) (apart : source ≠ own) : Follows own source (start own raw) where
  own := rfl
  ordered _ none := nomatch none
  seen := (MemberSet.observed_insert_ne apart.symm).trans rfl

theorem ordered_receive (ordered : t.Ordered) (n : Nat) : (t.receive n).Ordered := by
  obtain ⟨heard, expected, received⟩ := ordered
  unfold RTPTotals.receive
  repeat' split
  · exact ⟨Nat.succ_pos _, expected.trans (Nat.succ_le_succ (Nat.le_add_right _ _)), Nat.le_succ_of_le received⟩
  · exact ⟨heard, expected, received⟩
  · exact ⟨Nat.succ_pos _, expected, Nat.le_succ_of_le received⟩

theorem update_counted {rme rme' : RTPMemberEntry} {p p' : RTPPacket} {valid : Bool} (heard : 0 < t.received)
    (seq : p.seqNo = BitVec.ofNat 16 n) (seen : counters rme = some (counted t))
    (updated : update_seq RTP.hooks () rme p = .ok ((), rme', p', valid)) :
    counters rme' = some (counted (t.receive n)) := by
  cases sender : rme.sender with
  | false =>
      rw [counters, sender] at seen
      cases seen
  | true =>
      rw [counters, if_pos sender] at seen
      have same := Option.some.inj seen
      have maxSeq : rme.maxSeq = (counted t).maxSeq := congrArg Counters.maxSeq same
      have cycles : rme.cycles = (counted t).cycles := congrArg Counters.cycles same
      have received : rme.received + 1 = BitVec.ofNat 32 (t.received + 1 - 1) := by
        have before : rme.received = BitVec.ofNat 32 (t.received - 1) := congrArg Counters.received same
        have one : (1 : BitVec 32) = BitVec.ofNat 32 1 := rfl
        rw [before, one, ← BitVec.ofNat_add]
        congr 1
        omega
      have expected : rme.expectedPrior = (counted t).expectedPrior := congrArg Counters.expectedPrior same
      have prior : rme.receivedPrior = (counted t).receivedPrior := congrArg Counters.receivedPrior same
      rw [RTP.update_seq_plain, seq, maxSeq, udelta_counted] at updated
      unfold RTPTotals.receive
      split at updated
      · rename_i near
        cases updated
        obtain ⟨highest, wrapped⟩ := near_counted near
        rw [if_pos near, counters, if_pos sender, cycles, ← wrapped, ← highest, received, expected, prior]
        rfl
      · rename_i beyond
        rw [if_neg beyond]
        split at updated
        · rename_i far
          rw [if_pos far]
          split at updated
          · cases updated
          · cases updated
            rw [counters, if_pos sender, ← maxSeq]
            exact seen
        · rename_i close
          rw [if_neg close]
          cases updated
          rw [counters, if_pos sender, cycles, received, expected, prior]
          rfl

theorem Follows.step {after : RTPReports} {e : Event} (follows : Follows own source h) (apart : source ≠ own)
    (others : Apart source e) (steps : h.step source e = .ok after) : Follows own source after := by
  obtain ⟨rtp, stepped, rfl⟩ := map_eq_ok steps
  have seen := follows.seen
  cases e with
  | packet n now raw timestamp payloadLength contextPointer =>
      rw [← MemberSet.observed_memberEntry counters_silent h.rtp raw] at seen
      simp only [Event.rtpEvent, RTP.step, RTP.processRTP, RTP.updateMember] at stepped
      obtain ⟨⟨⟨⟩, rme, p, valid⟩, updated, rest⟩ := bind_eq_ok.mp stepped
      have kept : rtp.ssrc = h.rtp.ssrc ∧ rtp.memberSet.observed counters source = counters rme := by
        cases valid <;> cases rest <;> exact ⟨rfl, MemberSet.observed_insert_self⟩
      refine ⟨kept.1.trans follows.own, ?_, kept.2.trans ?_⟩
      · rintro t ⟨⟩
        cases totals : h.totals with
        | none => exact ⟨Nat.one_pos, Nat.zero_le _, Nat.zero_le _⟩
        | some t => exact ordered_receive (follows.ordered t totals) n
      · cases totals : h.totals with
        | none =>
            rw [totals] at seen
            have silent : (h.rtp.memberEntry raw source).sender = false := by
              cases sender : (h.rtp.memberEntry raw source).sender with
              | false => rfl
              | true =>
                  rw [counters, if_pos sender] at seen
                  cases seen
            rw [silent] at updated
            cases updated
            exact congrArg some first_counted
        | some t =>
            rw [totals] at seen
            have sender : (h.rtp.memberEntry raw source).sender = true := by
              cases sender : (h.rtp.memberEntry raw source).sender with
              | true => rfl
              | false =>
                  rw [counters, sender] at seen
                  cases seen
            rw [if_pos sender] at updated
            exact update_counted (follows.ordered t totals).heard rfl seen updated
  | other event =>
      have reports (rme : RTPMemberEntry) (sender : rme.sender = true) :
          counters { rme with expectedPrior := RTP.extended rme, receivedPrior := rme.received } =
            (counters rme).map Counters.report := by
        rw [counters, counters, if_pos sender, if_pos sender]
        rfl
      obtain ⟨same, kept⟩ := RTPHistory.other_observed counters_silent (fun _ _ => rfl)
        (by rwa [follows.own]) reports (fun _ _ _ this => by cases this; exact others) stepped
      rw [seen] at kept
      refine ⟨same.trans follows.own, ?_, kept.trans ?_⟩
      · intro t inside
        cases event with
        | rtcpTimeout now =>
            obtain ⟨before, totals, rfl⟩ := Option.map_eq_some_iff.mp inside
            exact ⟨(follows.ordered before totals).heard, Nat.le_refl _, Nat.le_refl _⟩
        | rtcp raw rtcp =>
            by_cases leaves : (Event.other (.rtcp raw rtcp)).leaves source = true
            · cases (if_pos leaves).symm.trans inside
            · exact follows.ordered t ((if_neg leaves).symm.trans inside)
        | rtp | rtpTimeout => exact follows.ordered t inside
      · cases event with
        | rtcpTimeout now =>
            change (h.totals.map counted).map Counters.report = (h.totals.map (·.report)).map counted
            rw [Option.map_map, Option.map_map]
            exact congrArg (Option.map · h.totals) (funext fun t => counted_report)
        | rtcp raw rtcp =>
            change (if (Event.other (.rtcp raw rtcp)).leaves source then none else h.totals.map counted) =
              (if (Event.other (.rtcp raw rtcp)).leaves source then none else h.totals).map counted
            split
            · rfl
            · rfl
        | rtp | rtpTimeout => rfl

theorem ofNat_sub_ofNat {a b : Nat} (le : b ≤ a) : BitVec.ofNat 32 a - BitVec.ofNat 32 b = BitVec.ofNat 32 (a - b) := by
  have parts : a = a - b + b := by omega
  rw [parts, BitVec.ofNat_add, BitVec.add_sub_cancel, Nat.add_sub_cancel]

theorem fraction_le {e r : Nat} (some : 0 < r ∧ r ≤ e) : 256 * (e - r) / e ≤ 255 := by
  have positive : 0 < e := Nat.lt_of_lt_of_le some.1 some.2
  exact Nat.le_of_lt_succ (Nat.div_lt_of_lt_mul (by omega))

theorem fraction_counted {e r : Nat} {expectedInt receivedInt : BitVec 32} (expected : expectedInt = BitVec.ofNat 32 e)
    (received : receivedInt = BitVec.ofNat 32 r) (interval : e = 0 ∨ 0 < r ∧ r ≤ e) (small : e - r < 2 ^ 24)
    (fits : e < 2 ^ 32) : (RTP.fractionLost expectedInt receivedInt).toNat = 256 * (e - r) / e ∧
      256 * (e - r) / e ≤ 255 := by
  rcases interval with rfl | some
  · have none : RTP.fractionLost expectedInt receivedInt = 0 := if_pos (Or.inl expected)
    rw [none, Nat.div_zero]
    exact ⟨rfl, Nat.zero_le _⟩
  · have byte := fraction_le some
    have lost : (expectedInt - receivedInt).toNat = e - r := by
      rw [expected, received, BitVec.toNat_sub, BitVec.toNat_ofNat, BitVec.toNat_ofNat]
      omega
    have shifted : ((expectedInt - receivedInt) <<< 8).toNat = 256 * (e - r) := by
      rw [BitVec.toNat_shiftLeft, lost, Nat.shiftLeft_eq]
      omega
    refine ⟨?_, byte⟩
    unfold RTP.fractionLost
    dsimp only
    split
    · rename_i none
      have all : e - r = 0 := by
        rcases none with zero | zero
        · have zero := congrArg BitVec.toNat (expected.symm.trans zero)
          rw [BitVec.toNat_ofNat, Nat.mod_eq_of_lt fits] at zero
          have nothing : e = 0 := zero
          omega
        · exact lost.symm.trans (congrArg BitVec.toNat zero)
      rw [all, Nat.mul_zero, Nat.zero_div]
      rfl
    · rw [BitVec.toNat_setWidth, BitVec.toNat_udiv, shifted, expected, BitVec.toNat_ofNat, Nat.mod_eq_of_lt fits]
      exact Nat.mod_eq_of_lt (Nat.lt_of_le_of_lt byte (by decide))

theorem reported {rme : RTPMemberEntry} (now : SimTime) (seen : counters rme = some (counted t)) (ordered : t.Ordered)
    (plain : t.Plain) : t.Reported (RTP.reportBlock now source rme) := by
  obtain ⟨later, interval, small, total, fits⟩ := plain
  cases sender : rme.sender with
  | false =>
      rw [counters, sender] at seen
      cases seen
  | true =>
      rw [counters, if_pos sender] at seen
      have same := Option.some.inj seen
      have extended : RTP.extended rme = BitVec.ofNat 32 (t.highest + 1) := by
        rw [← extended_counted, ← same]
        rfl
      have received : rme.received = BitVec.ofNat 32 (t.received - 1) := congrArg Counters.received same
      have expectedPrior : rme.expectedPrior = BitVec.ofNat 32 t.expectedPrior := congrArg Counters.expectedPrior same
      have receivedPrior : rme.receivedPrior = BitVec.ofNat 32 (t.receivedPrior - 1) :=
        congrArg Counters.receivedPrior same
      have expectedInt : RTP.extended rme - rme.expectedPrior = BitVec.ofNat 32 t.expectedInt := by
        rw [extended, expectedPrior]
        exact ofNat_sub_ofNat ordered.expected
      have receivedInt : rme.received - rme.receivedPrior = BitVec.ofNat 32 t.receivedInt := by
        rw [received, receivedPrior, ofNat_sub_ofNat (Nat.sub_le_sub_right ordered.received 1)]
        exact congrArg (BitVec.ofNat 32) (by unfold RTPTotals.receivedInt; omega)
      obtain ⟨fraction, byte⟩ := fraction_counted expectedInt receivedInt interval small
        (Nat.lt_of_le_of_lt (Nat.sub_le _ _) fits)
      have value : (RTP.reportBlock now source rme).fractionLost.toInt =
          ((256 * (t.expectedInt - t.receivedInt) / t.expectedInt : Nat) : Int) := by
        rw [← fraction]
        exact BitVec.toInt_eq_toNat_of_lt (by rw [RTP.reportBlock, fraction]; omega)
      refine ⟨value, by omega, ?_⟩
      change (RTP.extended rme - rme.received).toNat ≤ _
      rw [extended, received, ofNat_sub_ofNat (by omega), BitVec.toNat_ofNat]
      exact (Nat.mod_le _ _).trans (Nat.sub_le _ _)

/-- Under the condition on the totals, each block of a report says what it is to say. -/
theorem reports_right (apart : source ≠ own) (raw : RTPMemberEntry) {es : List Event}
    (runs : Runs (step source) (fun _ e => Apart source e) (start own raw) es h) (now : SimTime)
    {block : RTCPReportBlock} (inside : block ∈ (h.rtp.fillReports now).1) (about : block.ssrc = source) :
    ∃ t, h.totals = some t ∧ (t.Plain → t.Reported block) := by
  have follows : Follows own source h := runs.invariant (Follows own source)
    (fun _ _ _ follows others steps => follows.step apart others steps) (follows_start raw apart)
  obtain ⟨⟨ssrc, rme⟩, member, rfl⟩ := List.mem_map.mp inside
  obtain ⟨listed, sends⟩ := List.mem_filter.mp member
  obtain rfl : ssrc = source := about
  have stored := Std.TreeMap.mem_toList_iff_getElem?_eq_some.mp listed
  have seen := follows.seen
  unfold MemberSet.observed at seen
  rw [stored, Option.bind_some] at seen
  cases totals : h.totals with
  | none =>
      rw [totals, counters] at seen
      have sender : rme.sender = true := (Bool.and_eq_true_iff.mp sends).1
      rw [if_pos sender] at seen
      cases seen
  | some t =>
      rw [totals] at seen
      exact ⟨t, rfl, reported now seen (follows.ordered t totals)⟩

/-- Packet 3 is lost before the report, of three that are expected since the one before. -/
theorem reports_example : ∃ block : RTCPReportBlock, block.ssrc = 7 ∧
    block.fractionLost.toInt = 85 ∧ block.cumPacketsLost.toNat ≤ 5 := by
  have checked : (run (fun h e => Exec.assert (Apart 7 e) >>= fun _ => step 7 h e) (start 1 exampleEntry)
      [examplePacket 0, examplePacket 1, .other (.rtcpTimeout 0), examplePacket 2, examplePacket 4]).map (fun h =>
        (h.totals.map fun t => (t.highest, t.received, t.expectedPrior, t.receivedPrior),
          (h.rtp.fillReports 0).1.map (·.ssrc))) = .ok (some (4, 4, 2, 2), [7]) := by
    decide +kernel
  obtain ⟨h, ends, same⟩ := map_eq_ok checked
  obtain ⟨block, blocks, about⟩ := List.map_eq_singleton_iff.mp (congrArg (·.2) same)
  obtain ⟨t, totals, right⟩ := reports_right (by decide) exampleEntry (Runs.of_checked ends) 0
    (blocks ▸ List.mem_singleton.mpr rfl) about
  have values := congrArg (·.1) same
  rw [totals] at values
  obtain ⟨highest, received, expectedPrior, receivedPrior⟩ := t
  cases values
  obtain ⟨fraction, -, lost⟩ := right ⟨by decide, by decide, by decide, by decide, by decide⟩
  exact ⟨block, about, fraction, lost⟩

/-- Packet 2 arrives behind the report that has it as lost, and with it one more packet than is expected. -/
theorem reports_fails : ∃ h : RTPReports, ∃ t block, Runs (step 7) (fun _ e => Apart 7 e) (start 1 exampleEntry)
      [examplePacket 0, examplePacket 1, examplePacket 3, .other (.rtcpTimeout 0), examplePacket 4, examplePacket 2] h ∧
    h.totals = some t ∧ block ∈ (h.rtp.fillReports 0).1 ∧ block.ssrc = 7 ∧ block.fractionLost.toInt = -256 ∧
    ¬ t.Reported block := by
  have checked : (run (fun h e => Exec.assert (Apart 7 e) >>= fun _ => step 7 h e) (start 1 exampleEntry)
      [examplePacket 0, examplePacket 1, examplePacket 3, .other (.rtcpTimeout 0), examplePacket 4,
        examplePacket 2]).map (fun h => (h.totals.isSome,
          (h.rtp.fillReports 0).1.map fun block => (block.ssrc, block.fractionLost.toInt))) = .ok (true, [(7, -256)]) := by
    decide +kernel
  obtain ⟨h, ends, same⟩ := map_eq_ok checked
  obtain ⟨t, totals⟩ := Option.isSome_iff_exists.mp (congrArg (·.1) same)
  obtain ⟨block, blocks, parts⟩ := List.map_eq_singleton_iff.mp (congrArg (·.2) same)
  have fraction : block.fractionLost.toInt = -256 := congrArg (·.2) parts
  refine ⟨h, t, block, Runs.of_checked ends, totals, blocks ▸ List.mem_singleton.mpr rfl, congrArg (·.1) parts, fraction,
    fun reported => ?_⟩
  have nonneg := reported.byte.1
  rw [fraction] at nonneg
  cases nonneg

end RTPReports

end IPv6Suite
