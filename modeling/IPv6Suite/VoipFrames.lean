import IPv6Suite.VoipReception

namespace IPv6Suite

open Lib

/-- A module with one source: the packets it has sent, by number, the numbers of those that arrived before and since the
last evaluation, the last one first, and the frames played -/
structure VoipHistory where
  rtp : RTP RTPVoip
  clock : SimTime
  sent : List RTPPacket
  before : List Nat
  since : List Nat
  played : List (SimTime × VoipFrame)

namespace VoipHistory

/-- A packet may arrive any number of times: its copies have the address of the same frame. -/
inductive Event where
  | send (now : SimTime)
  | arrival (now : SimTime) (raw : RTPMemberEntry) (n : Nat)
  | playout (now : SimTime)
  | evaluate (now : SimTime)
  | other (event : RTP.Event)

def Event.now : Event → Option SimTime
  | send now | arrival now .. | playout now | evaluate now => some now
  | other _ => none

def start (own : BitVec 32) (raw : RTPMemberEntry) (params : VoipParams) : VoipHistory :=
  ⟨RTP.start own raw (.start params), 0, [], [], [], []⟩

/-- The next packet of the source, which is configured as the module is -/
def packet (source : BitVec 32) (h : VoipHistory) (now : SimTime) : RTPPacket :=
  ⟨source, BitVec.ofNat 16 h.sent.length, now, h.rtp.derived.params.payloadLength, none⟩

inductive Output where
  | quiet
  | played (frame : VoipFrame)
  | evaluated (evaluation : Evaluation)
deriving DecidableEq

/-- An evaluation ends an interval. -/
def evaluated (h : VoipHistory) (now : SimTime) (rtp : RTP RTPVoip) : Option Evaluation → VoipHistory × Output
  | none => ({ h with rtp, clock := now }, .quiet)
  | some e => ({ h with rtp, clock := now, before := h.since ++ h.before, since := [] }, .evaluated e)

def step (source : BitVec 32) (h : VoipHistory) : Event → Exec (VoipHistory × Output)
  | .send now =>
      let (derived, p) := h.rtp.derived.attachData h.sent.length (h.packet source now)
      .ok ({ h with rtp := { h.rtp with derived }, clock := now, sent := h.sent ++ [p] }, .quiet)
  | .arrival now raw n => do
      let p ← Exec.deref .fatalError h.sent[n]?
      let rtp ← h.rtp.processRTP RTPVoip.hooks now raw p
      return ({ h with rtp, clock := now, since := n :: h.since }, .quiet)
  | .playout now => do
      let (rtp, frame) ← RTPVoip.playout now h.rtp
      return ({ h with rtp, clock := now, played := h.played ++ [(now, frame)] }, .played frame)
  | .evaluate now => do
      let (rtp, evaluation) ← RTPVoip.evaluate now h.rtp
      return h.evaluated now rtp evaluation
  | .other event => do
      let rtp ← h.rtp.step RTPVoip.hooks event
      return ({ h with rtp }, .quiet)

def next (source : BitVec 32) (h : VoipHistory) (e : Event) : Exec VoipHistory := (h.step source e).map Prod.fst

/-- No timer is passed over. -/
def Timely (h : VoipHistory) (now : SimTime) : Prop :=
  h.clock ≤ now ∧ (∀ timer ∈ h.rtp.derived.playoutTimer, timer.isScheduled = true → now ≤ timer.arrivalTime) ∧
    ∀ time ∈ h.rtp.derived.emodelTimer, now ≤ time
deriving Decidable

/-- The packets are those of the source, sent one after the other, and a timer fires when it is due. -/
def Admits (h : VoipHistory) (e : Event) : Prop :=
  (∀ now ∈ e.now, h.Timely now) ∧
    match e with
    | .send now => ∀ p ∈ h.sent, p.timestamp < now
    | .arrival _ _ n => n < h.sent.length
    | .playout now => ∃ timer ∈ h.rtp.derived.playoutTimer, timer.isScheduled = true ∧ timer.arrivalTime = now
    | .evaluate now => h.rtp.derived.emodelTimer = some now
    | .other (.rtp ..) => False
    | .other _ => True

instance (h : VoipHistory) : (e : Event) → Decidable (h.Admits e)
  | .send _ | .arrival .. | .playout _ | .evaluate _ => inferInstanceAs (Decidable (_ ∧ _))
  | .other (.rtp ..) => isFalse fun admits => admits.2
  | .other (.rtcp ..) | .other (.rtcpTimeout ..) | .other (.rtpTimeout ..) =>
      isTrue ⟨fun _ timed => (nomatch timed), trivial⟩

/-- What no step changes, and the frames that are alive: a frame is deleted when its packet is processed, and those
that are remembered as out of order are of packets that were. -/
structure Sane (source : BitVec 32) (h : VoipHistory) : Prop where
  fresh : h.rtp.derived.playoutTimer = none → h.rtp.derived.emodelTimer = none
  member : ∀ timer ∈ h.rtp.derived.playoutTimer, timer.contextPointer ∈ h.rtp.memberSet
  sent : ∀ (n : Nat) (p : RTPPacket), h.sent[n]? = some p → p.ssrc = source ∧ p.seqNo = BitVec.ofNat 16 n ∧
    p.payloadLength = h.rtp.derived.params.payloadLength ∧ p.contextPointer = some n
  order : h.sent.Pairwise fun p q => p.timestamp < q.timestamp
  frames : ∀ (n : Nat) (f : VoipFrame), h.rtp.derived.frames[n]? = some f → ∃ p : RTPPacket, h.sent[n]? = some p ∧ f = p.frame
  misordered : ∀ f ∈ h.rtp.derived.misordered.elements, ∃ (n : Nat) (p : RTPPacket), h.sent[n]? = some p ∧
    f = p.frame ∧ n ∉ h.rtp.derived.frames

variable {source : BitVec 32} {h after : VoipHistory} {e : Event} {out : Output} {n : Nat} {p q : RTPPacket}

theorem same_packet (sane : Sane source h) {i j : Nat} (first : h.sent[i]? = some p) (second : h.sent[j]? = some q)
    (same : p.timestamp = q.timestamp) : i = j := by
  obtain ⟨bound, rfl⟩ := List.getElem?_eq_some_iff.mp first
  obtain ⟨bound', rfl⟩ := List.getElem?_eq_some_iff.mp second
  rcases Nat.lt_trichotomy i j with below | same' | above
  · exact absurd same (List.pairwise_iff_getElem.mp sane.order i j bound bound' below).ne
  · exact same'
  · exact absurd same.symm (List.pairwise_iff_getElem.mp sane.order j i bound' bound above).ne

theorem receives (sane : Sane source h) (sent : h.sent[n]? = some p) : RTPVoip.Receives h.rtp p n where
  fresh := sane.fresh
  plain := by
    rw [(sane.sent n p sent).2.2.1]
    exact BitVec.lt_irrefl _
  pointer := (sane.sent n p sent).2.2.2
  content f stored := by
    obtain ⟨q, sent', rfl⟩ := sane.frames n f stored
    cases sent.symm.trans sent'
    rfl
  first live known := by
    obtain ⟨m, q, sent', same, dead⟩ := sane.misordered _ known
    cases same_packet sane sent sent' (congrArg VoipFrame.timestamp same)
    exact dead live

/-- What a packet needs: its frame is there, unless it is refused, and a discard that continues a loss event finds
one. -/
def Sound (h : VoipHistory) : Event → Prop
  | .arrival now raw n => ∀ p, h.sent[n]? = some p → (h.rtp.memberEntry raw p.ssrc).Accepts p.seqNo →
      n ∈ h.rtp.derived.frames ∧ ¬ (h.rtp.derived.Stale ∧
        (h.rtp.derived.Late now p.timestamp ∨ h.rtp.derived.Displaces now p.timestamp))
  | _ => True

theorem sane_start (own : BitVec 32) (raw : RTPMemberEntry) (params : VoipParams) : Sane source (start own raw params) where
  fresh _ := rfl
  member _ created := nomatch created
  sent _ _ sent := nomatch sent
  order := List.Pairwise.nil
  frames n f stored := by
    change (∅ : StdMap Nat VoipFrame (· < ·))[n]? = some f at stored
    rw [Std.TreeMap.getElem?_emptyc] at stored
    cases stored
  misordered _ known := nomatch known

theorem Sane.keep (sane : Sane source h) (sent : after.sent = h.sent)
    (params : after.rtp.derived.params = h.rtp.derived.params) (frames : after.rtp.derived.frames = h.rtp.derived.frames)
    (misordered : after.rtp.derived.misordered = h.rtp.derived.misordered)
    (fresh : after.rtp.derived.playoutTimer = none → after.rtp.derived.emodelTimer = none)
    (member : ∀ timer ∈ after.rtp.derived.playoutTimer, timer.contextPointer ∈ after.rtp.memberSet) : Sane source after where
  fresh := fresh
  member := member
  sent := by
    rw [sent, params]
    exact sane.sent
  order := by
    rw [sent]
    exact sane.order
  frames := by
    rw [sent, frames]
    exact sane.frames
  misordered := by
    rw [sent, frames, misordered]
    exact sane.misordered

theorem sane_send {now : SimTime} (sane : Sane source h) (later : ∀ p ∈ h.sent, p.timestamp < now)
    (steps : h.step source (.send now) = .ok (after, out)) : Sane source after := by
  cases steps
  have stays {n : Nat} {q : RTPPacket} (sent : h.sent[n]? = some q) :
      (h.sent ++ [(h.rtp.derived.attachData h.sent.length (h.packet source now)).2])[n]? = some q := by
    rw [List.getElem?_append_left (List.getElem?_eq_some_iff.mp sent).1, sent]
  have last : (h.sent ++ [(h.rtp.derived.attachData h.sent.length (h.packet source now)).2])[h.sent.length]? =
      some (h.rtp.derived.attachData h.sent.length (h.packet source now)).2 := List.getElem?_concat_length
  refine ⟨sane.fresh, sane.member, fun n q sent => ?_, ?_, fun n f stored => ?_, fun f known => ?_⟩
  · by_cases before : n < h.sent.length
    · rw [List.getElem?_append_left before] at sent
      exact sane.sent n q sent
    · have bound := (List.getElem?_eq_some_iff.mp sent).1
      rw [List.length_append, List.length_singleton] at bound
      have same : n = h.sent.length := by omega
      subst same
      cases last.symm.trans sent
      exact ⟨rfl, rfl, rfl, rfl⟩
  · refine List.pairwise_append.mpr ⟨sane.order, List.pairwise_singleton _ _, fun q mem r last => ?_⟩
    cases List.mem_singleton.mp last
    exact later q mem
  · by_cases same : h.sent.length = n
    · subst same
      change (h.rtp.derived.frames.insert h.sent.length _)[h.sent.length]? = some f at stored
      rw [StdMap.getElem?_insert_self] at stored
      cases stored
      exact ⟨_, last, rfl⟩
    · change (h.rtp.derived.frames.insert h.sent.length _)[n]? = some f at stored
      rw [StdMap.getElem?_insert_ne same] at stored
      obtain ⟨q, sent, rfl⟩ := sane.frames n f stored
      exact ⟨q, stays sent, rfl⟩
  · obtain ⟨n, q, sent, rfl, dead⟩ := sane.misordered f known
    refine ⟨n, q, stays sent, rfl, fun live => ?_⟩
    rcases StdMap.mem_insert.mp live with same | live
    · exact absurd (List.getElem?_eq_some_iff.mp sent).1 (by omega)
    · exact dead live

theorem timer_opened_member {v : RTPVoip} {now timestamp : SimTime} {ssrc : BitVec 32} {members : MemberSet}
    (member : ∀ timer ∈ v.playoutTimer, timer.contextPointer ∈ members) (own : ssrc ∈ members) :
    ∀ timer ∈ (v.opened now ssrc timestamp).playoutTimer, timer.contextPointer ∈ members := by
  unfold RTPVoip.opened
  split
  · intro timer created
    cases created
    cases stored : v.playoutTimer with
    | none => exact own
    | some timer => exact member timer stored
  · exact member

theorem fresh_opened {v : RTPVoip} {now timestamp : SimTime} {ssrc : BitVec 32}
    (fresh : v.playoutTimer = none → v.emodelTimer = none) :
    (v.opened now ssrc timestamp).playoutTimer = none → (v.opened now ssrc timestamp).emodelTimer = none := by
  unfold RTPVoip.opened
  split
  · intro created
    cases created
  · exact fresh

theorem sane_arrival {now : SimTime} {raw : RTPMemberEntry} (sane : Sane source h)
    (steps : h.step source (.arrival now raw n) = .ok (after, out)) : Sane source after := by
  obtain ⟨p, sent, rest⟩ := bind_eq_ok.mp steps
  obtain ⟨rtp, processes, rest⟩ := bind_eq_ok.mp rest
  have sent := (deref_eq_ok _ _ _).mp sent
  cases rest
  rcases RTPVoip.processRTP_cases (receives sane sent) processes with
    ⟨-, rme, rfl⟩ | ⟨-, live, probableDropped, misordered, rme, buffered, -, known, buffers, rfl⟩
  · exact sane.keep rfl rfl rfl rfl sane.fresh fun timer created => StdMap.mem_insert.mpr (.inr (sane.member timer created))
  · obtain ⟨cb, db, discarded, elossEvents, elastReceived, rfl⟩ := RTPVoip.bufferFrame_shape buffers
    have own : p.ssrc ∈ h.rtp.memberSet.insert p.ssrc (rme.collect now p.timestamp) := StdMap.mem_insert.mpr (.inl rfl)
    have member : ∀ timer ∈ h.rtp.derived.playoutTimer,
        timer.contextPointer ∈ h.rtp.memberSet.insert p.ssrc (rme.collect now p.timestamp) :=
      fun timer created => StdMap.mem_insert.mpr (.inr (sane.member timer created))
    refine ⟨fresh_opened (by exact sane.fresh), timer_opened_member (by exact member) own, ?_, sane.order, ?_, ?_⟩
    · intro m q sent
      change _ ∧ _ ∧ q.payloadLength = (RTPVoip.params (RTPVoip.opened _ now p.ssrc p.timestamp)).payloadLength ∧ _
      rw [RTPVoip.params_opened]
      exact sane.sent m q sent
    · intro m f stored
      by_cases same : n = m
      · subst same
        rw [StdMap.getElem?_erase_self] at stored
        cases stored
      · rw [StdMap.getElem?_erase_ne same] at stored
        exact sane.frames m f stored
    · intro f mem
      change f ∈ (RTPVoip.misordered (RTPVoip.opened _ now p.ssrc p.timestamp)).elements at mem
      rw [RTPVoip.misordered_opened] at mem
      rcases known f mem with old | rfl
      · obtain ⟨m, q, sent', rfl, dead⟩ := sane.misordered f old
        exact ⟨m, q, sent', rfl, fun live => dead (StdMap.mem_erase.mp live).2⟩
      · exact ⟨n, p, sent, rfl, fun live => (StdMap.mem_erase.mp live).1 rfl⟩

theorem other_keeps {rtp rtp' : RTP RTPVoip} {event : RTP.Event} (quiet : ∀ now raw p, event ≠ .rtp now raw p)
    (steps : rtp.step RTPVoip.hooks event = .ok rtp') :
    rtp'.derived = rtp.derived ∧ ∀ ssrc ∈ rtp.memberSet, ssrc ∈ rtp'.memberSet := by
  cases event with
  | rtp now raw p => exact absurd rfl (quiet now raw p)
  | rtcp raw rtcp =>
      cases steps
      obtain ⟨ssrc, kind⟩ := rtcp
      have inserted : ∀ k ∈ rtp.memberSet, k ∈ rtp.memberSet.insert ssrc (rtp.memberEntry raw ssrc) :=
        fun k member => StdMap.mem_insert.mpr (.inr member)
      cases kind with
      | senderReport timestamp => exact ⟨rfl, fun k member => StdMap.mem_insert.mpr (.inr (inserted k member))⟩
      | receiverReport | goodBye | sdes => exact ⟨rfl, inserted⟩
  | rtcpTimeout now =>
      cases steps
      exact ⟨rfl, fun ssrc member => Std.TreeMap.mem_map.mpr member⟩
  | rtpTimeout raw =>
      cases steps
      exact ⟨rfl, fun ssrc member => StdMap.mem_insert.mpr (.inr member)⟩

theorem playout_inv {now : SimTime} (steps : h.step source (.playout now) = .ok (after, out)) :
    ∃ v frame, RTPVoip.playoutBufferedPacket now
        { h.rtp.derived with playoutTimer := h.rtp.derived.playoutTimer.map PlayoutTimer.fire } = .ok (v, frame) ∧
      after = { h with rtp := { h.rtp with derived := v }, clock := now, played := h.played ++ [(now, frame)] } ∧
      out = .played frame := by
  obtain ⟨⟨rtp, frame⟩, plays, rest⟩ := bind_eq_ok.mp steps
  obtain ⟨⟨v, frame⟩, pops, same⟩ := bind_eq_ok.mp plays
  cases same
  cases rest
  exact ⟨v, frame, pops, rfl, rfl⟩

theorem evaluate_inv {now : SimTime} (sane : Sane source h) (due : h.rtp.derived.emodelTimer = some now)
    (steps : h.step source (.evaluate now) = .ok (after, out)) :
    ∃ timer rme, h.rtp.derived.playoutTimer = some timer ∧ h.rtp.memberSet[timer.contextPointer]? = some rme ∧
      after = { h with
        rtp := { h.rtp with derived := { h.rtp.derived with
          emodelTimer := some (now + 30)
          elossEventsCount := h.rtp.derived.elossEventsCount +
            BitVec.ofNat 32 (h.rtp.derived.evaluation rme).elossEvents.length
          elostPackets := h.rtp.derived.elostPackets + (h.rtp.derived.evaluation rme).elossEvents.sum
          elossEvents := []
          probableDropped := []
          elastReceived := 0
          elastExpected := rme.cycles + rme.maxSeq.setWidth 32 } }
        clock := now
        before := h.since ++ h.before
        since := [] } ∧
      out = .evaluated (h.rtp.derived.evaluation rme) := by
  obtain ⟨⟨rtp, evaluation⟩, evaluates, rest⟩ := bind_eq_ok.mp steps
  unfold RTPVoip.evaluate at evaluates
  cases created : h.rtp.derived.playoutTimer with
  | none =>
      have idle := sane.fresh created
      cases due.symm.trans idle
  | some timer =>
      rw [created] at evaluates
      obtain ⟨rme, stored, evaluates⟩ := bind_eq_ok.mp evaluates
      unfold RTPVoip.ecalculateRFactor at evaluates
      rw [due] at evaluates
      cases evaluates
      cases rest
      exact ⟨timer, rme, rfl, (deref_eq_ok _ _ _).mp stored, rfl, rfl⟩

theorem sane_playout {now : SimTime} (sane : Sane source h) (steps : h.step source (.playout now) = .ok (after, out)) :
    Sane source after := by
  obtain ⟨v, frame, pops, rfl, rfl⟩ := playout_inv steps
  have fired : (h.rtp.derived.playoutTimer.map PlayoutTimer.fire = none → h.rtp.derived.emodelTimer = none) :=
    fun idle => sane.fresh (Option.map_eq_none_iff.mp idle)
  have member : ∀ timer ∈ h.rtp.derived.playoutTimer.map PlayoutTimer.fire, timer.contextPointer ∈ h.rtp.memberSet := by
    intro timer created
    obtain ⟨timer', created', rfl⟩ := Option.map_eq_some_iff.mp created
    exact sane.member timer' created'
  rcases RTPVoip.playout_cases pops with ⟨-, rfl⟩ | ⟨next, rest, timer, -, created, -, rfl⟩
  · exact sane.keep rfl rfl rfl rfl fired member
  · refine sane.keep rfl rfl rfl rfl nofun fun timer' created' => ?_
    cases created'
    exact member timer created

theorem sane_step (sane : Sane source h) (admits : h.Admits e) (steps : h.step source e = .ok (after, out)) :
    Sane source after := by
  cases e with
  | send now => exact sane_send sane admits.2 steps
  | arrival now raw n => exact sane_arrival sane steps
  | playout now => exact sane_playout sane steps
  | evaluate now =>
      obtain ⟨timer, rme, created, stored, rfl, rfl⟩ := evaluate_inv sane admits.2 steps
      exact sane.keep rfl rfl rfl rfl (fun idle => nomatch created.symm.trans idle) sane.member
  | other event =>
      obtain ⟨rtp, stepped, rest⟩ := bind_eq_ok.mp steps
      cases rest
      have quiet : ∀ now raw p, event ≠ .rtp now raw p := by
        rintro now raw p rfl
        exact admits.2
      obtain ⟨same, stays⟩ := other_keeps quiet stepped
      have keeps : Sane source { h with rtp := rtp } := by
        refine sane.keep rfl ?_ ?_ ?_ ?_ ?_
        all_goals dsimp only
        all_goals rw [same]
        · exact sane.fresh
        · exact fun timer created => stays _ (sane.member timer created)
      exact keeps

theorem step_arrival (now : SimTime) (raw : RTPMemberEntry) (sent : h.sent[n]? = some p) :
    h.step source (.arrival now raw n) = h.rtp.processRTP RTPVoip.hooks now raw p >>= fun rtp =>
      .ok ({ h with rtp, clock := now, since := n :: h.since }, .quiet) := by
  change (Exec.deref .fatalError h.sent[n]? >>= fun p => _) = _
  rw [sent]
  rfl

theorem evaluate_returns {now : SimTime} (sane : Sane source h) (due : h.rtp.derived.emodelTimer = some now) :
    ∃ after, h.step source (.evaluate now) = .ok after := by
  cases created : h.rtp.derived.playoutTimer with
  | none => cases due.symm.trans (sane.fresh created)
  | some timer =>
      obtain ⟨rme, stored⟩ := StdMap.mem_iff_exists.mp (sane.member timer created)
      unfold step RTPVoip.evaluate
      rw [created]
      dsimp only
      rw [stored]
      exact ⟨_, rfl⟩

theorem other_returns (source : BitVec 32) {event : RTP.Event} (admits : h.Admits (.other event)) :
    ∃ after, h.step source (.other event) = .ok after := by
  cases event with
  | rtp now raw p => exact admits.2.elim
  | rtcp raw rtcp => exact ⟨_, rfl⟩
  | rtcpTimeout now => exact ⟨_, rfl⟩
  | rtpTimeout raw => exact ⟨_, rfl⟩

end VoipHistory

/-- Frames of 20 ms, a jitter delay of 60 ms -/
def exampleVoip : VoipParams where
  frameLength := 1 / 50
  bitrate := 64000
  framesPerPacket := 1
  jitterDelay := 3 / 50
  frameLength_pos := by decide +kernel
  frameLength_le := by decide +kernel
  bitrate_le := by decide
  framesPerPacket_pos := by decide
  framesPerPacket_le := by decide
  jitterDelay_nonneg := by decide +kernel

/-- What a step fails with -/
def VoipHistory.fault (source : BitVec 32) (h : VoipHistory) (e : VoipHistory.Event) : Option Fault :=
  match h.step source e with
  | .ok _ => none
  | .error fault => some fault

theorem VoipHistory.step_of_fault {source : BitVec 32} {h : VoipHistory} {e : VoipHistory.Event} {fault : Fault}
    (fails : h.fault source e = some fault) : h.step source e = .error fault := by
  unfold VoipHistory.fault at fails
  split at fails
  · cases fails
  · cases fails
    assumption

end IPv6Suite
