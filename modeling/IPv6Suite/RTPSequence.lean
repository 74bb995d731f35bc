import IPv6Suite.RTP
import IPv6Suite.Lib.Machine
import IPv6Suite.Lib.SerialNumber
import Mathlib.Data.List.Basic

namespace IPv6Suite

open Lib

namespace RTPMemberEntry

def counters (rme : RTPMemberEntry) : Option (BitVec 16 × BitVec 32 × BitVec 32) :=
  if rme.sender then some (rme.maxSeq, rme.cycles, rme.received) else none

theorem counters_eq_none {rme : RTPMemberEntry} : rme.counters = none ↔ rme.sender = false := by
  unfold counters
  cases rme.sender <;> simp

theorem counters_eq_some {rme : RTPMemberEntry} {maxSeq : BitVec 16} {cycles received : BitVec 32} :
    rme.counters = some (maxSeq, cycles, received) ↔
      rme.sender = true ∧ rme.maxSeq = maxSeq ∧ rme.cycles = cycles ∧ rme.received = received := by
  unfold counters
  cases rme.sender <;> simp

/-- The highest packet number received is `highest`. -/
structure Numbered (s : RTPMemberEntry) (highest : Nat) : Prop where
  maxSeq : s.maxSeq = BitVec.ofNat 16 highest
  cycles : s.cycles = BitVec.ofNat 32 (highest / RTP_SEQ_MOD * RTP_SEQ_MOD)

end RTPMemberEntry

namespace RTP

variable {σ : Type} {s : RTPMemberEntry} {p : RTPPacket} {highest n : Nat}

open SerialNumber

theorem seq_eq_place (n : Nat) : BitVec.ofNat 16 n = place (0 : BitVec 16) n := by
  simp [place]

theorem highest_eq (numbered : s.Numbered highest) : s.cycles + s.maxSeq.setWidth 32 = BitVec.ofNat 32 highest := by
  apply BitVec.eq_of_toNat_eq
  simp only [numbered.maxSeq, numbered.cycles, RTP_SEQ_MOD, BitVec.toNat_add, BitVec.toNat_setWidth,
    BitVec.toNat_ofNat]
  omega

theorem extended_eq (numbered : s.Numbered highest) : extended s = BitVec.ofNat 32 (highest + 1) := by
  rw [extended, highest_eq numbered, BitVec.ofNat_add]
  rfl

theorem udelta_later (numbered : s.Numbered highest) (later : highest < n) (near : n < highest + MAX_DROPOUT) :
    (BitVec.ofNat 16 n - s.maxSeq).toNat = n - highest := by
  rw [numbered.maxSeq, seq_eq_place, seq_eq_place]
  unfold MAX_DROPOUT at near
  exact toNat_sub_place 0 (Nat.le_of_lt later) (by omega)

theorem udelta_earlier (numbered : s.Numbered highest) (earlier : n < highest) (near : highest < n + MAX_MISORDER) :
    (BitVec.ofNat 16 n - s.maxSeq).toNat = RTP_SEQ_MOD - (highest - n) := by
  rw [numbered.maxSeq, seq_eq_place, seq_eq_place]
  unfold MAX_MISORDER at near
  exact toNat_sub_place_earlier 0 earlier (by omega)

/-- The sequence number of a later packet is smaller exactly when it has wrapped since. -/
theorem wraps_iff (numbered : s.Numbered highest) (later : highest < n) (near : n < highest + MAX_DROPOUT) :
    BitVec.ofNat 16 n < s.maxSeq ↔ n / RTP_SEQ_MOD ≠ highest / RTP_SEQ_MOD := by
  rw [numbered.maxSeq, BitVec.lt_def, BitVec.toNat_ofNat, BitVec.toNat_ofNat]
  unfold MAX_DROPOUT at near
  unfold RTP_SEQ_MOD
  omega

theorem hooks_dropped {p : Prop} [Decidable p] (rtp : Unit) (udelta : BitVec 16) :
    (if p then hooks.handleDroppedPackets rtp s udelta else .ok rtp) = .ok rtp := by
  split <;> rfl

theorem update_seq_later (hooks : RTPHooks σ) (rtp : σ) (numbered : s.Numbered highest)
    (seq : p.seqNo = BitVec.ofNat 16 n) (later : highest < n) (near : n < highest + MAX_DROPOUT) :
    update_seq hooks rtp s p =
      (if n / RTP_SEQ_MOD = highest / RTP_SEQ_MOD ∧ 1 < n - highest then
        hooks.handleDroppedPackets rtp s (BitVec.ofNat 16 (n - highest)) else .ok rtp) >>= fun rtp =>
      .ok (rtp, { s with
        maxSeq := BitVec.ofNat 16 n
        cycles := BitVec.ofNat 32 (n / RTP_SEQ_MOD * RTP_SEQ_MOD)
        received := s.received + 1 }, p, true) := by
  have udelta := udelta_later numbered later near
  have difference : BitVec.ofNat 16 n - s.maxSeq = BitVec.ofNat 16 (n - highest) := by
    rw [← udelta, BitVec.ofNat_toNat, BitVec.setWidth_eq]
  have inOrder : n - highest < MAX_DROPOUT := by omega
  have wraps := wraps_iff numbered later near
  unfold update_seq
  simp only [seq, udelta, if_pos inOrder]
  by_cases same : n / RTP_SEQ_MOD = highest / RTP_SEQ_MOD
  · have cycles : s.cycles = BitVec.ofNat 32 (n / RTP_SEQ_MOD * RTP_SEQ_MOD) := by rw [same, numbered.cycles]
    rw [if_neg (fun wrapped => wraps.mp wrapped same), ← cycles, difference]
    by_cases dropped : 1 < n - highest
    · rw [if_pos dropped, if_pos ⟨same, dropped⟩]
      rfl
    · rw [if_neg dropped, if_neg fun both => dropped both.2]
      rfl
  · have cycles : s.cycles + BitVec.ofNat 32 RTP_SEQ_MOD = BitVec.ofNat 32 (n / RTP_SEQ_MOD * RTP_SEQ_MOD) := by
      have next : n / RTP_SEQ_MOD = highest / RTP_SEQ_MOD + 1 := by
        unfold RTP_SEQ_MOD MAX_DROPOUT at *
        omega
      rw [numbered.cycles, ← BitVec.ofNat_add, next, Nat.add_mul, Nat.one_mul]
    rw [if_pos (wraps.mpr same), if_neg fun both => same both.1, cycles]
    rfl

/-- An earlier packet counts once the derived class has seen it. -/
theorem update_seq_earlier (hooks : RTPHooks σ) (rtp : σ) (numbered : s.Numbered highest)
    (seq : p.seqNo = BitVec.ofNat 16 n) (earlier : n < highest) (near : highest < n + MAX_MISORDER) :
    update_seq hooks rtp s p = hooks.handleMisorderedPackets rtp s p >>= fun after =>
      .ok (after.1, { after.2.1 with received := after.2.1.received + 1 }, after.2.2, true) := by
  have udelta := udelta_earlier numbered earlier near
  have beyond : ¬ RTP_SEQ_MOD - (highest - n) < MAX_DROPOUT := by
    unfold RTP_SEQ_MOD MAX_DROPOUT MAX_MISORDER at *
    omega
  have close : ¬ RTP_SEQ_MOD - (highest - n) ≤ RTP_SEQ_MOD - MAX_MISORDER := by
    unfold RTP_SEQ_MOD MAX_MISORDER at *
    omega
  unfold update_seq
  simp only [seq, udelta, if_neg beyond, if_neg close]
  rfl

/-- The three branches, where no statistics are kept -/
theorem update_seq_plain (rtp : Unit) (s : RTPMemberEntry) (p : RTPPacket) : update_seq hooks rtp s p =
    if (p.seqNo - s.maxSeq).toNat < MAX_DROPOUT then
      .ok (rtp, { s with
        maxSeq := p.seqNo
        cycles := if p.seqNo < s.maxSeq then s.cycles + BitVec.ofNat 32 RTP_SEQ_MOD else s.cycles
        received := s.received + 1 }, p, true)
    else if (p.seqNo - s.maxSeq).toNat ≤ RTP_SEQ_MOD - MAX_MISORDER then
      if p.seqNo.setWidth 32 = s.badSeq then .error .assertFailed
      else .ok (rtp, { s with badSeq := (p.seqNo + 1).setWidth 32 }, p, false)
    else .ok (rtp, { s with received := s.received + 1 }, p, true) := by
  unfold update_seq
  dsimp only
  split
  · split
    · rfl
    · split
      · rfl
      · rfl
  · split
    · split
      · rename_i same
        rw [assert_neg (not_not_intro same)]
        rfl
      · rename_i differs
        rw [assert_pos differs]
        rfl
    · rfl

end RTP

namespace MemberSet

variable {members : MemberSet} {source other : BitVec 32} {rme : RTPMemberEntry}

/-- What is counted for a source: the highest sequence number, the cycles and the packets received -/
def counters (members : MemberSet) (source : BitVec 32) : Option (BitVec 16 × BitVec 32 × BitVec 32) :=
  members[source]?.bind RTPMemberEntry.counters

section Observed

variable {β : Type} (view : RTPMemberEntry → Option β)

def observed (members : MemberSet) (source : BitVec 32) : Option β := members[source]?.bind view

variable {view}

theorem observed_insert_self : observed view (members.insert source rme) source = view rme := by
  rw [observed, StdMap.getElem?_insert_self]
  rfl

theorem observed_insert_ne (apart : other ≠ source) :
    observed view (members.insert other rme) source = observed view members source := by
  rw [observed, StdMap.getElem?_insert_ne apart]
  rfl

theorem observed_erase_self : observed view (members.erase source) source = none := by
  rw [observed, StdMap.getElem?_erase_self]
  rfl

theorem observed_erase_ne (apart : other ≠ source) :
    observed view (members.erase other) source = observed view members source := by
  rw [observed, StdMap.getElem?_erase_ne apart]
  rfl

theorem observed_map {f : BitVec 32 → RTPMemberEntry → RTPMemberEntry} {g : β → β}
    (same : ∀ rme, view (f source rme) = (view rme).map g) :
    observed view (members.map f) source = (observed view members source).map g := by
  unfold observed
  rw [Std.TreeMap.getElem?_map]
  cases members[source]? with
  | none => rfl
  | some rme => exact same rme

/-- Nothing is seen of entries that are made for a source that was unknown. -/
theorem observed_memberEntry {σ : Type} (silent : ∀ rme, rme.sender = false → view rme = none) (rtp : RTP σ)
    (raw : RTPMemberEntry) (source : BitVec 32) : view (rtp.memberEntry raw source) = observed view rtp.memberSet source := by
  unfold RTP.memberEntry observed
  cases rtp.memberSet[source]? with
  | none => exact silent _ rfl
  | some rme => rfl

end Observed

theorem counters_insert_self : counters (members.insert source rme) source = rme.counters := observed_insert_self

theorem counters_insert_ne (apart : other ≠ source) :
    counters (members.insert other rme) source = counters members source := observed_insert_ne apart

/-- Entries that are made for a source that was unknown count nothing. -/
theorem counters_memberEntry {σ : Type} (rtp : RTP σ) (raw : RTPMemberEntry) (source : BitVec 32) :
    (rtp.memberEntry raw source).counters = counters rtp.memberSet source :=
  observed_memberEntry (fun _ silent => RTPMemberEntry.counters_eq_none.mpr silent) rtp raw source

end MemberSet

/-- The module with the numbers of the packets received from one source, the last one first -/
structure RTPHistory where
  rtp : RTP Unit
  received : List Nat

namespace RTPHistory

inductive Event where
  | packet (n : Nat) (now : SimTime) (raw : RTPMemberEntry) (timestamp : SimTime) (payloadLength : BitVec 32)
      (contextPointer : Option Nat)
  | other (event : RTP.Event)

namespace Event

def rtpEvent (source : BitVec 32) : Event → RTP.Event
  | packet n now raw timestamp payloadLength contextPointer =>
      .rtp now raw ⟨source, BitVec.ofNat 16 n, timestamp, payloadLength, contextPointer⟩
  | other event => event

/-- The source has left, and with it what was received of it. -/
def leaves (source : BitVec 32) : Event → Bool
  | other (.rtcp _ rtcp) => rtcp.ssrc = source ∧ rtcp.kind = .goodBye
  | _ => false

end Event

def start (own : BitVec 32) (raw : RTPMemberEntry) : RTPHistory := ⟨RTP.start own raw (), []⟩

def next (source : BitVec 32) (h : RTPHistory) : Event → List Nat
  | .packet n .. => n :: h.received
  | .other event => if (Event.other event).leaves source then [] else h.received

def step (source : BitVec 32) (h : RTPHistory) (e : Event) : Exec RTPHistory :=
  (h.rtp.step RTP.hooks (e.rtpEvent source)).map fun rtp => ⟨rtp, h.next source e⟩

def highest (received : List Nat) : Nat := received.foldr max 0

/-- How many packets up to the highest one were not received -/
def missing (received : List Nat) : Nat :=
  ((List.range (highest received + 1)).filter fun n => n ∉ received).length

/-- Each packet is received at most once, packet 0 is the first, and none is far from the highest one. -/
def Admits (source : BitVec 32) (h : RTPHistory) : Event → Prop
  | .packet n .. =>
      (h.received = [] → n = 0) ∧
        (h.received ≠ [] → n ∉ h.received ∧ n < highest h.received + 3000 ∧ highest h.received ≤ n + 99)
  | .other (.rtp _ _ rtpData) => rtpData.ssrc ≠ source
  | .other _ => True

instance (source : BitVec 32) (h : RTPHistory) : (e : Event) → Decidable (h.Admits source e)
  | .packet .. => inferInstanceAs (Decidable (_ ∧ _))
  | .other (.rtp ..) => inferInstanceAs (Decidable (_ ≠ _))
  | .other (.rtcp ..) | .other (.rtcpTimeout ..) | .other (.rtpTimeout ..) => isTrue trivial

/-- What the counters of the source are to say after its packets -/
structure Counted (source : BitVec 32) (h : RTPHistory) : Prop where
  highest : ∀ rme : RTPMemberEntry, h.rtp.memberSet[source]? = some rme →
    (rme.cycles + rme.maxSeq.setWidth 32).toNat = highest h.received
  received : ∀ rme : RTPMemberEntry, h.rtp.memberSet[source]? = some rme → rme.received.toNat = h.received.length
  lost : ∀ now, ∀ block ∈ (h.rtp.fillReports now).1, block.ssrc = source →
    block.cumPacketsLost.toNat = missing h.received

/-- The counters after the packets received: the first of them is not counted. -/
def counted (received : List Nat) : Option (BitVec 16 × BitVec 32 × BitVec 32) :=
  if received = [] then none
  else some (BitVec.ofNat 16 (highest received), BitVec.ofNat 32 (highest received / RTP_SEQ_MOD * RTP_SEQ_MOD),
    BitVec.ofNat 32 (received.length - 1))

variable {own source : BitVec 32} {h : RTPHistory} {received : List Nat} {n : Nat}

theorem le_highest (inside : n ∈ received) : n ≤ highest received := by
  induction received with
  | nil => cases inside
  | cons head rest ih =>
      cases inside with
      | head => exact Nat.le_max_left ..
      | tail _ inside => exact Nat.le_trans (ih inside) (Nat.le_max_right ..)

theorem highest_mem (heard : received ≠ []) : highest received ∈ received := by
  induction received with
  | nil => exact absurd rfl heard
  | cons head rest ih =>
      change max head (highest rest) ∈ head :: rest
      by_cases last : rest = []
      · subst last
        rw [show highest [] = 0 from rfl, Nat.max_zero]
        exact List.mem_cons_self
      · by_cases higher : head ≤ highest rest
        · rw [Nat.max_eq_right higher]
          exact List.mem_cons_of_mem _ (ih last)
        · rw [Nat.max_eq_left (by omega)]
          exact List.mem_cons_self

theorem missing_add_length (distinct : received.Nodup) :
    missing received + received.length = highest received + 1 := by
  have inside : ((List.range (highest received + 1)).filter fun n => n ∈ received).Perm received := by
    refine (List.perm_ext_iff_of_nodup (List.nodup_range.filter _) distinct).mpr fun n => ?_
    rw [List.mem_filter, List.mem_range, decide_eq_true_eq]
    exact ⟨And.right, fun mem => ⟨Nat.lt_succ_of_le (le_highest mem), mem⟩⟩
  have all := List.length_eq_length_filter_add (l := List.range (highest received + 1)) fun n => decide (n ∈ received)
  rw [List.length_range, inside.length_eq] at all
  have others : ((List.range (highest received + 1)).filter fun n => !decide (n ∈ received)).length = missing received := by
    unfold missing
    congr 1
    exact List.filter_congr fun n _ => by simp
  omega

theorem counted_cons (heard : received ≠ []) (n : Nat) : counted (n :: received) =
      some (BitVec.ofNat 16 (max n (highest received)),
        BitVec.ofNat 32 (max n (highest received) / RTP_SEQ_MOD * RTP_SEQ_MOD),
        BitVec.ofNat 32 (received.length - 1) + 1) := by
  have some : 0 < received.length := List.length_pos_iff.mpr heard
  have more : (n :: received).length - 1 = received.length - 1 + 1 := by
    rw [List.length_cons]
    omega
  rw [counted, if_neg (List.cons_ne_nil n received), more, BitVec.ofNat_add]
  rfl

theorem numbered_of_counted {rme : RTPMemberEntry} (heard : received ≠ []) (follows : rme.counters = counted received) :
    rme.sender = true ∧ rme.Numbered (highest received) ∧ rme.received = BitVec.ofNat 32 (received.length - 1) := by
  rw [counted, if_neg heard, RTPMemberEntry.counters_eq_some] at follows
  exact ⟨follows.1, ⟨follows.2.1, follows.2.2.1⟩, follows.2.2.2⟩

theorem packet_step {rtp : RTP Unit} {now : SimTime} {raw : RTPMemberEntry} {timestamp : SimTime} {payloadLength : BitVec 32}
    {contextPointer : Option Nat} (follows : rtp.memberSet.counters source = counted received)
    (admits : (⟨rtp, received⟩ : RTPHistory).Admits source (.packet n now raw timestamp payloadLength contextPointer)) :
    ∃ members, rtp.step RTP.hooks
        (Event.rtpEvent source (.packet n now raw timestamp payloadLength contextPointer)) =
          .ok { rtp with memberSet := members } ∧
      MemberSet.counters members source = counted (n :: received) := by
  rw [← MemberSet.counters_memberEntry rtp raw] at follows
  simp only [RTP.step, Event.rtpEvent, RTP.processRTP, RTP.updateMember]
  by_cases heard : received = []
  · rw [heard] at follows
    have silent := RTPMemberEntry.counters_eq_none.mp follows
    rw [silent, admits.1 heard, heard]
    exact ⟨_, rfl, MemberSet.counters_insert_self⟩
  · obtain ⟨fresh, near, close⟩ : n ∉ received ∧ n < highest received + 3000 ∧ highest received ≤ n + 99 :=
      admits.2 heard
    obtain ⟨sender, numbered, counts⟩ := numbered_of_counted heard follows
    rw [sender, if_pos rfl, counted_cons heard]
    by_cases later : highest received < n
    · rw [RTP.update_seq_later RTP.hooks rtp.derived numbered rfl later near, RTP.hooks_dropped,
        Nat.max_eq_left (by omega)]
      refine ⟨_, rfl, ?_⟩
      rw [MemberSet.counters_insert_self, ← counts]
      exact if_pos sender
    · have apart : n ≠ highest received := fun same => fresh (same ▸ highest_mem heard)
      rw [RTP.update_seq_earlier RTP.hooks rtp.derived numbered rfl (by omega) (by unfold MAX_MISORDER; omega),
        Nat.max_eq_right (by omega), ← numbered.maxSeq, ← numbered.cycles]
      refine ⟨_, rfl, ?_⟩
      rw [MemberSet.counters_insert_self, ← counts]
      exact if_pos sender

section Observed

variable {β : Type} {view : RTPMemberEntry → Option β} (silent : ∀ rme, rme.sender = false → view rme = none)
  (untimed : ∀ rme lastSR, view { rme with lastSR } = view rme)

include silent untimed

theorem rtcp_observed (rtp : RTP Unit) (raw : RTPMemberEntry) (rtcp : RTCPPacket) (source : BitVec 32) :
    MemberSet.observed view (rtp.processRTCP RTP.hooks raw rtcp).memberSet source =
      if (Event.other (.rtcp raw rtcp)).leaves source then none else rtp.memberSet.observed view source := by
  obtain ⟨ssrc, kind⟩ := rtcp
  have entry := MemberSet.observed_memberEntry silent rtp raw ssrc
  by_cases same : ssrc = source
  · subst same
    have leaves : (Event.other (.rtcp raw ⟨ssrc, kind⟩)).leaves ssrc = decide (kind = .goodBye) := by
      simp [Event.leaves]
    rw [leaves]
    cases kind with
    | goodBye => exact MemberSet.observed_erase_self
    | senderReport timestamp => exact MemberSet.observed_insert_self.trans ((untimed _ _).trans entry)
    | receiverReport | sdes => exact MemberSet.observed_insert_self.trans entry
  · have stays : (Event.other (.rtcp raw ⟨ssrc, kind⟩)).leaves source = false := by simp [Event.leaves, same]
    rw [stays]
    cases kind with
    | goodBye => exact (MemberSet.observed_erase_ne same).trans (MemberSet.observed_insert_ne same)
    | senderReport timestamp => exact (MemberSet.observed_insert_ne same).trans (MemberSet.observed_insert_ne same)
    | receiverReport | sdes => exact MemberSet.observed_insert_ne same

theorem other_observed {reported : β → β} {rtp after : RTP Unit} {e : RTP.Event} (apart : source ≠ rtp.ssrc)
    (reports : ∀ rme, rme.sender = true →
      view { rme with expectedPrior := RTP.extended rme, receivedPrior := rme.received } = (view rme).map reported)
    (others : ∀ now raw rtpData, e = .rtp now raw rtpData → rtpData.ssrc ≠ source)
    (steps : rtp.step RTP.hooks e = .ok after) :
    after.ssrc = rtp.ssrc ∧ MemberSet.observed view after.memberSet source =
      if (Event.other e).leaves source then none
      else match e with
        | .rtcpTimeout _ => (rtp.memberSet.observed view source).map reported
        | _ => rtp.memberSet.observed view source := by
  cases e with
  | rtp now raw rtpData =>
      simp only [RTP.step, RTP.processRTP] at steps
      obtain ⟨updated, -, rest⟩ := bind_eq_ok.mp steps
      obtain ⟨derived, rme, rtpData', valid⟩ := updated
      cases valid <;> cases rest <;> exact ⟨rfl, MemberSet.observed_insert_ne (others now raw rtpData rfl)⟩
  | rtcp raw rtcp =>
      cases steps
      exact ⟨by rcases rtcp with ⟨ssrc, _ | _⟩ <;> rfl, rtcp_observed silent untimed rtp raw rtcp source⟩
  | rtcpTimeout now =>
      cases steps
      refine ⟨rfl, MemberSet.observed_map fun rme => ?_⟩
      by_cases sender : rme.sender = true
      · rw [if_pos (by simp [RTP.reportsAbout, sender, apart])]
        exact reports rme sender
      · rw [if_neg (by simp [RTP.reportsAbout, sender]), silent rme (Bool.eq_false_iff.mpr sender)]
        rfl
  | rtpTimeout raw =>
      cases steps
      exact ⟨rfl, MemberSet.observed_insert_ne apart.symm⟩

end Observed

theorem other_step {rtp after : RTP Unit} {e : RTP.Event} (apart : source ≠ rtp.ssrc)
    (admits : (⟨rtp, received⟩ : RTPHistory).Admits source (.other e)) (steps : rtp.step RTP.hooks e = .ok after) :
    after.ssrc = rtp.ssrc ∧ MemberSet.counters after.memberSet source =
      if (Event.other e).leaves source then none else rtp.memberSet.counters source := by
  have silent (rme : RTPMemberEntry) : rme.sender = false → rme.counters = none := RTPMemberEntry.counters_eq_none.mpr
  obtain ⟨same, seen⟩ := other_observed silent (fun _ _ => rfl) apart
    (fun _ _ => (congrFun Option.map_id _).symm) (fun _ _ _ this => by cases this; exact admits) steps
  refine ⟨same, seen.trans ?_⟩
  cases e with
  | rtcpTimeout now => exact congrFun Option.map_id _
  | rtp | rtcp | rtpTimeout => rfl

/-- What every run keeps -/
structure Follows (own source : BitVec 32) (h : RTPHistory) : Prop where
  own : h.rtp.ssrc = own
  distinct : h.received.Nodup
  counters : h.rtp.memberSet.counters source = counted h.received

theorem follows_start (raw : RTPMemberEntry) (apart : source ≠ own) : Follows own source (start own raw) where
  own := rfl
  distinct := List.nodup_nil
  counters := (MemberSet.counters_insert_ne apart.symm).trans rfl

theorem follows_step {after : RTPHistory} {e : Event} (apart : source ≠ own) (follows : Follows own source h)
    (admits : h.Admits source e) (steps : h.step source e = .ok after) : Follows own source after := by
  obtain ⟨rtp, stepped, rfl⟩ := map_eq_ok steps
  obtain ⟨own', distinct, counters⟩ := follows
  cases e with
  | packet n now raw timestamp payloadLength contextPointer =>
      obtain ⟨members, stepped', counts⟩ := packet_step counters admits
      cases stepped.symm.trans stepped'
      refine ⟨own', List.nodup_cons.mpr ⟨fun again => ?_, distinct⟩, counts⟩
      exact (admits.2 (List.ne_nil_of_mem again)).1 again
  | other event =>
      obtain ⟨same, counts⟩ := other_step (by rwa [own']) admits stepped
      by_cases leaves : (Event.other event).leaves source = true
      · have received : h.next source (.other event) = [] := if_pos leaves
        rw [if_pos leaves] at counts
        rw [received]
        exact ⟨same.trans own', List.nodup_nil, counts⟩
      · have received : h.next source (.other event) = h.received := if_neg leaves
        rw [if_neg leaves] at counts
        rw [received]
        exact ⟨same.trans own', distinct, counts.trans counters⟩

theorem follows_runs {es : List Event} (apart : source ≠ own) (raw : RTPMemberEntry)
    (runs : Runs (step source) (Admits source) (start own raw) es h) : Follows own source h :=
  runs.invariant _ (fun _ _ _ follows admits steps => follows_step apart follows admits steps) (follows_start raw apart)

theorem entry_of_follows (follows : Follows own source h) (heard : h.received ≠ []) :
    ∃ rme : RTPMemberEntry, h.rtp.memberSet[source]? = some rme ∧ rme.sender = true ∧
      rme.Numbered (highest h.received) ∧ rme.received = BitVec.ofNat 32 (h.received.length - 1) := by
  have counters := follows.counters
  unfold MemberSet.counters at counters
  cases stored : h.rtp.memberSet[source]? with
  | none =>
      rw [stored, counted, if_neg heard] at counters
      cases counters
  | some rme =>
      rw [stored] at counters
      exact ⟨rme, rfl, numbered_of_counted heard counters⟩

theorem received_add_one {received : List Nat} (heard : received ≠ []) :
    BitVec.ofNat 32 (received.length - 1) + 1 = BitVec.ofNat 32 received.length := by
  have some := List.length_pos_iff.mpr heard
  have one : (1 : BitVec 32) = BitVec.ofNat 32 1 := rfl
  rw [one, ← BitVec.ofNat_add]
  congr 1
  omega

theorem add_one_ne {x : BitVec 32} : x + 1 ≠ x := by
  intro same
  have one : (1 : BitVec 32).toNat = 1 := rfl
  have values := congrArg BitVec.toNat same
  rw [BitVec.toNat_add, one] at values
  omega

theorem lost_of_numbered {rme : RTPMemberEntry} {now : SimTime} (numbered : rme.Numbered (highest received))
    (heard : received ≠ []) (distinct : received.Nodup) (counts : rme.received = BitVec.ofNat 32 (received.length - 1)) :
    (RTP.reportBlock now source rme).cumPacketsLost = BitVec.ofNat 32 (missing received + 1) := by
  have some := List.length_pos_iff.mpr heard
  have all := missing_add_length distinct
  have parts : highest received + 1 = missing received + 1 + (received.length - 1) := by omega
  change RTP.extended rme - rme.received = _
  rw [RTP.extended_eq numbered, counts, parts, BitVec.ofNat_add, BitVec.add_sub_cancel]

theorem report_of_source {rtp : RTP Unit} {now : SimTime} {block : RTCPReportBlock}
    (inside : block ∈ (rtp.fillReports now).1) (about : block.ssrc = source) :
    ∃ rme, rtp.memberSet[source]? = some rme ∧ block = RTP.reportBlock now source rme := by
  obtain ⟨⟨ssrc, rme⟩, member, rfl⟩ := List.mem_map.mp inside
  have stored := Std.TreeMap.mem_toList_iff_getElem?_eq_some.mp (List.mem_filter.mp member).1
  cases about
  exact ⟨rme, stored, rfl⟩

theorem reports_source {rtp : RTP Unit} {rme : RTPMemberEntry} (stored : rtp.memberSet[source]? = some rme)
    (sender : rme.sender = true) (apart : source ≠ rtp.ssrc) (now : SimTime) :
    RTP.reportBlock now source rme ∈ (rtp.fillReports now).1 := by
  refine List.mem_map.mpr ⟨(source, rme), List.mem_filter.mpr ⟨?_, ?_⟩, rfl⟩
  · exact Std.TreeMap.mem_toList_iff_getElem?_eq_some.mpr stored
  · simp [RTP.reportsAbout, sender, apart]

end RTPHistory

def exampleEntry : RTPMemberEntry := ⟨true, 9, 9, 9, 9, 9, 9, 9, 9, 9⟩

def examplePacket (n : Nat) : RTPHistory.Event := .packet n n exampleEntry n 160 none

open RTPHistory in
/-- The highest number is followed across every wrap, but the first packet is never counted: after every packet one
less than were received is, and the report counts one more lost than are missing. -/
theorem rtp_sequence {own source : BitVec 32} (apart : source ≠ own) (raw : RTPMemberEntry) {es : List RTPHistory.Event}
    {h : RTPHistory} (runs : Runs (step source) (Admits source) (start own raw) es h) (heard : h.received ≠ []) :
    (∃ rme : RTPMemberEntry, h.rtp.memberSet[source]? = some rme ∧
      rme.cycles + rme.maxSeq.setWidth 32 = BitVec.ofNat 32 (highest h.received) ∧
      rme.received + 1 = BitVec.ofNat 32 h.received.length ∧
      ∀ now, RTP.reportBlock now source rme ∈ (h.rtp.fillReports now).1) ∧
    (∀ now, ∀ block ∈ (h.rtp.fillReports now).1, block.ssrc = source →
      block.cumPacketsLost = BitVec.ofNat 32 (missing h.received + 1)) ∧
    (∀ n now raw timestamp payloadLength contextPointer,
      h.Admits source (.packet n now raw timestamp payloadLength contextPointer) →
        ∃ after, h.step source (.packet n now raw timestamp payloadLength contextPointer) = .ok after) ∧
    ¬ h.Counted source := by
  have follows := follows_runs apart raw runs
  obtain ⟨rme, stored, sender, numbered, counts⟩ := entry_of_follows follows heard
  have received := received_add_one heard
  rw [← counts] at received
  refine ⟨⟨rme, stored, RTP.highest_eq numbered, received, RTPHistory.reports_source stored sender (by rwa [follows.own])⟩, ?_,
    ?_, ?_⟩
  · intro now block inside about
    obtain ⟨rme', stored', rfl⟩ := report_of_source inside about
    cases stored.symm.trans stored'
    exact lost_of_numbered numbered heard follows.distinct counts
  · intro n now raw timestamp payloadLength contextPointer admits
    obtain ⟨members, steps, -⟩ := packet_step follows.counters admits
    exact ⟨_, congrArg (Except.map _) steps⟩
  · intro claimed
    have exactly := claimed.received rme stored
    rw [← exactly, BitVec.ofNat_toNat, BitVec.setWidth_eq] at received
    exact add_one_ne received

open RTPHistory in
/-- Packets across a wrap and one from before it that is late: as many as 25 count as 24. -/
theorem rtp_sequence_wraps :
    ∃ (h : RTPHistory) (rme : RTPMemberEntry),
      Runs (step 7) (Admits 7) (start 1 exampleEntry)
        ((List.range 24).map (fun i => examplePacket (2900 * i)) ++ [examplePacket 66650]) h ∧
      h.rtp.memberSet[(7 : BitVec 32)]? = some rme ∧ h.received.length = 25 ∧
      rme.cycles + rme.maxSeq.setWidth 32 = 66700#32 ∧ rme.received + 1 = 25#32 := by
  have checked : (run (fun h e => Exec.assert (Admits 7 h e) >>= fun _ => step 7 h e) (start 1 exampleEntry)
      ((List.range 24).map (fun i => examplePacket (2900 * i)) ++ [examplePacket 66650])).map
        (fun h => decide (h.received.length = 25 ∧ highest h.received = 66700)) = .ok true := by
    decide +kernel
  obtain ⟨h, runs, same⟩ := map_eq_ok checked
  obtain ⟨length, high⟩ := of_decide_eq_true same
  have heard : h.received ≠ [] := List.ne_nil_of_length_pos (by omega)
  obtain ⟨⟨rme, stored, cycles, received, -⟩, -⟩ := rtp_sequence (by decide) exampleEntry (Runs.of_checked runs) heard
  rw [high] at cycles
  rw [length] at received
  exact ⟨h, rme, Runs.of_checked runs, stored, length, cycles, received⟩

open RTPHistory in
/-- After packet 0, which is all that was sent, one packet is reported as lost. -/
theorem rtp_sequence_fails : ∃ h, Runs (step 7) (Admits 7) (start 1 exampleEntry) [examplePacket 0] h ∧
    h.received = [0] ∧ ¬ h.Counted 7 := by
  have checked : (do
      let h ← run (fun h e => Exec.assert (Admits 7 h e) >>= fun _ => step 7 h e) (start 1 exampleEntry)
        [examplePacket 0]
      let rme ← Exec.deref .outOfBounds h.rtp.memberSet[(7 : BitVec 32)]?
      return decide (h.received = [0] ∧ rme.received = 0) : Exec Bool) = .ok true := by
    decide +kernel
  obtain ⟨h, runs, stored⟩ := bind_eq_ok.mp checked
  obtain ⟨rme, stored, same⟩ := bind_eq_ok.mp stored
  obtain ⟨received, counts⟩ := of_decide_eq_true (Except.ok.inj same)
  refine ⟨h, Runs.of_checked runs, received, fun counted => ?_⟩
  have length := counted.received rme ((deref_eq_ok _ _ _).mp stored)
  rw [counts, received] at length
  cases length

end IPv6Suite
