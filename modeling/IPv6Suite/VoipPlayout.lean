import IPv6Suite.VoipFrames
import IPv6Suite.Lib.PlayoutOrder

namespace IPv6Suite

open Lib

namespace RTPVoip

/-- The timestamp of the frame the playout timer is scheduled for -/
def dueStamp (v : RTPVoip) : Option SimTime :=
  match v.playoutTimer with
  | none => none
  | some timer =>
      if timer.isScheduled then some (timer.arrivalTime - v.networkDelay - v.params.jitterDelay) else none

variable {v : RTPVoip} {now timestamp t : SimTime} {ssrc : BitVec 32} {timer : PlayoutTimer}

theorem dueStamp_eq_some : v.dueStamp = some t ↔ ∃ timer, v.playoutTimer = some timer ∧ timer.isScheduled = true ∧
    timer.arrivalTime = v.playoutTime t := by
  unfold dueStamp playoutTime
  constructor
  · intro due
    cases created : v.playoutTimer with
    | none =>
        rw [created] at due
        cases due
    | some timer =>
        rw [created] at due
        dsimp only at due
        cases scheduled : timer.isScheduled with
        | false =>
            rw [scheduled] at due
            cases due
        | true =>
            rw [scheduled] at due
            cases due
            exact ⟨timer, rfl, scheduled, by ring⟩
  · rintro ⟨timer, created, scheduled, arrives⟩
    rw [created]
    dsimp only
    rw [scheduled, arrives, if_pos rfl]
    congr 1
    ring

theorem dueStamp_of_scheduled (created : v.playoutTimer = some timer) (scheduled : timer.isScheduled = true) :
    v.dueStamp = some (timer.arrivalTime - v.networkDelay - v.params.jitterDelay) := by
  refine dueStamp_eq_some.mpr ⟨timer, created, scheduled, ?_⟩
  unfold playoutTime
  ring

theorem dueStamp_eq_none : v.dueStamp = none ↔ ∀ timer, v.playoutTimer = some timer → timer.isScheduled = false := by
  unfold dueStamp
  cases v.playoutTimer with
  | none => simp
  | some timer => cases scheduled : timer.isScheduled <;> simp [scheduled]

theorem timer_of_begin (begins : v.talkspurtBegin now = true) : (v.opened now ssrc timestamp).playoutTimer =
      some ⟨(v.playoutTimer.map PlayoutTimer.contextPointer).getD ssrc, true, now, now + v.params.jitterDelay⟩ := by
  unfold opened
  rw [if_pos begins]

theorem dueStamp_opened_begin (begins : v.talkspurtBegin now = true) :
    (v.opened now ssrc timestamp).dueStamp = some timestamp := by
  refine dueStamp_eq_some.mpr ⟨_, timer_of_begin begins, rfl, ?_⟩
  unfold playoutTime
  rw [networkDelay_opened, params_opened]
  unfold delayAt
  rw [if_pos begins]
  ring

theorem opened_of_not_begin (continues : v.talkspurtBegin now = false) : v.opened now ssrc timestamp = v := by
  unfold opened
  rw [continues]
  rfl

theorem talkspurtBegin_eq_false : v.talkspurtBegin now = false ↔ ∃ timer, v.playoutTimer = some timer ∧
    timer.isScheduled = true ∧ now - v.networkDelay - v.params.jitterDelay ≤ timer.sendingTime := by
  unfold talkspurtBegin
  cases v.playoutTimer with
  | none => simp
  | some timer => simp

theorem dueStamp_of_not_begin (continues : v.talkspurtBegin now = false) :
    ∃ t, v.dueStamp = some t ∧ (¬ v.Late now timestamp → t ≤ timestamp) := by
  obtain ⟨timer, created, scheduled, -⟩ := talkspurtBegin_eq_false.mp continues
  refine ⟨_, dueStamp_of_scheduled created scheduled, fun onTime => ?_⟩
  have after : ¬ v.playoutTime timestamp < timer.arrivalTime := fun before => onTime ⟨continues, timer, created, before⟩
  unfold playoutTime at after
  linarith

end RTPVoip

namespace VoipHistory

def arrived (h : VoipHistory) : List Nat := h.since ++ h.before

def arrivedFrames (h : VoipHistory) : List VoipFrame := h.arrived.filterMap fun n => h.sent[n]?.map RTPPacket.frame

def Distinct (h : VoipHistory) (e : Event) : Prop :=
  h.Admits e ∧
    match e with
    | .arrival _ _ n => n ∉ h.arrived
    | _ => True

/-- A packet is near enough to be accepted, the buffer has room for its frame unless it is late, a discard that
continues a loss event finds one, and a talkspurt begins with a frame that is later than those played. -/
def Smooth (h : VoipHistory) : Event → Prop
  | .arrival now raw n => ∀ p ∈ h.sent[n]?,
      (h.rtp.memberEntry raw p.ssrc).Accepts p.seqNo ∧
      (h.rtp.derived.Late now p.timestamp → ¬ h.rtp.derived.Stale) ∧
      (¬ h.rtp.derived.Late now p.timestamp → h.rtp.derived.cb.full = false) ∧
      (h.rtp.derived.talkspurtBegin now = true → ∀ q ∈ h.played, q.2.timestamp < p.timestamp)
  | _ => True

instance (h : VoipHistory) : (e : Event) → Decidable (h.Distinct e)
  | .arrival .. | .send _ | .playout _ | .evaluate _ | .other _ => inferInstanceAs (Decidable (_ ∧ _))

instance (h : VoipHistory) : (e : Event) → Decidable (h.Smooth e)
  | .arrival _ _ n => inferInstanceAs (Decidable (∀ _ ∈ h.sent[n]?, _ ∧ _ ∧ _ ∧ (_ → _)))
  | .send _ | .playout _ | .evaluate _ | .other _ => isTrue trivial

/-- What holds in every state: the timer is scheduled exactly when frames are buffered, for the playout time of the
earliest, frames are played in the order of their timestamps, and each frame that arrived was played or discarded or is
in the buffer. -/
structure Plays (h : VoipHistory) : Prop where
  scheduled : (∃ timer, h.rtp.derived.playoutTimer = some timer ∧ timer.isScheduled = true) ↔
    h.rtp.derived.cb.elements ≠ []
  earliest : ∀ timer, h.rtp.derived.playoutTimer = some timer → timer.isScheduled = true →
    ∃ f ∈ h.rtp.derived.cb.elements, (∀ g ∈ h.rtp.derived.cb.elements, f.timestamp ≤ g.timestamp) ∧
      timer.arrivalTime = h.rtp.derived.playoutTime f.timestamp
  order : (h.played.map Prod.snd).Pairwise fun f g => f.timestamp < g.timestamp
  once : ∃ discards : List VoipFrame, h.rtp.derived.db = discards.map VoipFrame.seqNo ∧
    h.arrivedFrames.Perm (h.played.map Prod.snd ++ discards ++ h.rtp.derived.cb.elements)

/-- What a step does: a frame is played at its playout time, and each discard is counted as one loss. -/
structure PlayedInTime (h : VoipHistory) (after : VoipHistory × Output) : Prop where
  time : ∀ f, after.2 = .played f → after.1.clock = h.rtp.derived.playoutTime f.timestamp
  counted : (∀ e, after.2 ≠ .evaluated e) →
    after.1.rtp.derived.elossEvents.sum + BitVec.ofNat 32 h.rtp.derived.db.length =
      h.rtp.derived.elossEvents.sum + BitVec.ofNat 32 after.1.rtp.derived.db.length

/-- What every run keeps -/
structure Playing (source : BitVec 32) (h : VoipHistory) : Prop extends Sane source h where
  ordered : PlayoutOrder VoipFrame.timestamp h.rtp.derived.cb.elements (h.played.map Prod.snd) h.rtp.derived.dueStamp
  stamped : ∀ timer, h.rtp.derived.playoutTimer = some timer → timer.isScheduled = true →
    timer.arrivalTime ≤ timer.sendingTime + h.rtp.derived.networkDelay + h.rtp.derived.params.jitterDelay
  recent : ∀ p ∈ h.sent, p.timestamp ≤ h.clock
  distinct : h.arrived.Nodup
  known : ∀ n ∈ h.arrived, n < h.sent.length
  alive : ∀ n < h.sent.length, n ∉ h.arrived → n ∈ h.rtp.derived.frames
  once : ∃ discards : List VoipFrame, h.rtp.derived.db = discards.map VoipFrame.seqNo ∧
    h.arrivedFrames.Perm (h.played.map Prod.snd ++ discards ++ h.rtp.derived.cb.elements)

variable {source : BitVec 32} {h after : VoipHistory} {e : Event} {out : Output} {n : Nat} {p q : RTPPacket}

theorem plays_of_playing (playing : Playing source h) : h.Plays where
  scheduled := by
    rw [ne_eq, ← playing.ordered.idle, ← ne_eq, Option.ne_none_iff_exists']
    constructor
    · rintro ⟨timer, created, scheduled⟩
      exact ⟨_, RTPVoip.dueStamp_of_scheduled created scheduled⟩
    · rintro ⟨t, due⟩
      obtain ⟨timer, created, scheduled, -⟩ := RTPVoip.dueStamp_eq_some.mp due
      exact ⟨timer, created, scheduled⟩
  earliest timer created scheduled := by
    have due := RTPVoip.dueStamp_of_scheduled created scheduled
    obtain ⟨⟨f, inside, first⟩, least⟩ := playing.ordered.earliest _ due
    refine ⟨f, inside, fun g mem => first ▸ least g mem, ?_⟩
    unfold RTPVoip.playoutTime
    linarith
  order := playing.ordered.order
  once := playing.once

theorem playing_start (own : BitVec 32) (raw : RTPMemberEntry) (params : VoipParams) :
    Playing source (start own raw params) where
  toSane := sane_start own raw params
  ordered := PlayoutOrder.start VoipFrame.timestamp
  stamped _ created := nomatch created
  recent _ sent := nomatch sent
  distinct := List.nodup_nil
  known _ inside := nomatch inside
  alive n bound := absurd bound (Nat.not_lt_zero n)
  once := ⟨[], rfl, List.Perm.refl _⟩

theorem fresh_stamp (playing : Playing source h) (sent : h.sent[n]? = some p) (first : n ∉ h.arrived) :
    ∀ f ∈ h.rtp.derived.cb.elements, f.timestamp ≠ p.timestamp := by
  intro f inside same
  obtain ⟨discards, -, all⟩ := playing.once
  have arrived : f ∈ h.arrivedFrames := all.mem_iff.mpr (List.mem_append_right _ inside)
  obtain ⟨m, mem, located⟩ := List.mem_filterMap.mp arrived
  obtain ⟨q, sent', rfl⟩ := Option.map_eq_some_iff.mp located
  cases same_packet playing.toSane sent' sent same
  exact first mem

theorem playing_send {now : SimTime} (playing : Playing source h) (admits : h.Admits (.send now))
    (steps : h.step source (.send now) = .ok (after, out)) : Playing source after where
  toSane := sane_step playing.toSane admits steps
  ordered := by
    cases steps
    exact playing.ordered
  stamped := by
    cases steps
    exact playing.stamped
  recent := by
    cases steps
    intro p mem
    rcases List.mem_append.mp mem with mem | last
    · exact le_trans (playing.recent p mem) (admits.1 now rfl).1
    · cases List.mem_singleton.mp last
      exact le_refl _
  distinct := by
    cases steps
    exact playing.distinct
  known := by
    cases steps
    intro n mem
    exact lt_of_lt_of_le (playing.known n mem) (by simp)
  alive := by
    cases steps
    intro n bound first
    by_cases before : n < h.sent.length
    · exact StdMap.mem_insert.mpr (.inr (playing.alive n before first))
    · rw [List.length_append, List.length_singleton] at bound
      exact StdMap.mem_insert.mpr (.inl (by omega))
  once := by
    cases steps
    obtain ⟨discards, dropped, all⟩ := playing.once
    refine ⟨discards, dropped, ?_⟩
    have same : h.arrived.filterMap (fun n => (h.sent ++ [(h.rtp.derived.attachData h.sent.length
        (h.packet source now)).2])[n]?.map RTPPacket.frame) = h.arrivedFrames := by
      refine List.filterMap_congr fun n mem => ?_
      rw [List.getElem?_append_left (playing.known n mem)]
    exact (List.Perm.of_eq same).trans all

/-- The state after a packet with a frame of its own -/
def received (h : VoipHistory) (now : SimTime) (n : Nat) (p : RTPPacket) (rme : RTPMemberEntry) (buffered : RTPVoip) :
    VoipHistory :=
  { h with
    rtp := { h.rtp with
      derived := { buffered with
        frames := h.rtp.derived.frames.erase n, cb := buffered.cb.sort VoipFrame.le }
      memberSet := h.rtp.memberSet.insert p.ssrc (rme.collect now p.timestamp) }
    clock := now
    since := n :: h.since }

variable {raw : RTPMemberEntry}

theorem arrival_eq (now : SimTime) (sane : Sane source h) (sent : h.sent[n]? = some p)
    (live : n ∈ h.rtp.derived.frames) (accepts : (h.rtp.memberEntry raw p.ssrc).Accepts p.seqNo) :
    ∃ probableDropped misordered rme, h.step source (.arrival now raw n) =
      ({ h.rtp.derived with probableDropped, misordered }.opened now p.ssrc p.timestamp).bufferFrame now p.frame >>=
        fun buffered => .ok (h.received now n p rme buffered, .quiet) := by
  have receives := receives sane sent
  obtain ⟨f, stored⟩ := StdMap.mem_iff_exists.mp live
  cases receives.content f stored
  obtain ⟨probableDropped, misordered, rme, updates, -⟩ := RTPVoip.updateMember_accepted receives accepts live
  refine ⟨probableDropped, misordered, rme, ?_⟩
  rw [step_arrival now raw sent]
  unfold RTP.processRTP
  rw [updates, ok_bind]
  change (RTPVoip.processRTPData now { h.rtp.derived with probableDropped, misordered } p rme >>= _) >>= _ = _
  rw [RTPVoip.processRTPData_live (by exact receives.fresh) (by exact receives.plain) receives.pointer (by exact stored)]
  cases ({ h.rtp.derived with probableDropped, misordered }.opened now p.ssrc p.timestamp).bufferFrame now p.frame with
  | error fault => rfl
  | ok buffered => rfl

theorem arrival_late {now : SimTime} (sane : Sane source h) (sent : h.sent[n]? = some p)
    (live : n ∈ h.rtp.derived.frames) (accepts : (h.rtp.memberEntry raw p.ssrc).Accepts p.seqNo)
    (late : h.rtp.derived.Late now p.timestamp) (recorded : ¬ h.rtp.derived.Stale) :
    ∃ probableDropped misordered rme elossEvents, h.step source (.arrival now raw n) =
      .ok (h.received now n p rme { h.rtp.derived with
        probableDropped, misordered, elossEvents
        db := h.rtp.derived.db ++ [p.frame.seqNo]
        discarded := true }, .quiet) ∧ elossEvents.sum = h.rtp.derived.elossEvents.sum + 1 := by
  obtain ⟨probableDropped, misordered, rme, steps⟩ := arrival_eq now sane sent live accepts
  have opens : { h.rtp.derived with probableDropped, misordered }.opened now p.ssrc p.timestamp =
      { h.rtp.derived with probableDropped, misordered } := RTPVoip.opened_of_not_begin (by exact late.1)
  have buffers : ({ h.rtp.derived with probableDropped, misordered }.opened now p.ssrc p.timestamp).bufferFrame now p.frame =
      ({ h.rtp.derived with probableDropped, misordered }.opened now p.ssrc p.timestamp).countDiscard p.frame.seqNo :=
    RTPVoip.bufferFrame_late (f := p.frame) p.ssrc late
  obtain ⟨elossEvents, counts, sum, -⟩ := RTPVoip.countDiscard_eq (v := { h.rtp.derived with probableDropped, misordered })
    (by exact recorded) p.frame.seqNo
  rw [steps, buffers, opens, counts]
  exact ⟨probableDropped, misordered, rme, elossEvents, rfl, sum⟩

theorem arrival_room {now : SimTime} (sane : Sane source h) (sent : h.sent[n]? = some p)
    (live : n ∈ h.rtp.derived.frames) (accepts : (h.rtp.memberEntry raw p.ssrc).Accepts p.seqNo)
    (onTime : ¬ h.rtp.derived.Late now p.timestamp) (room : h.rtp.derived.cb.full = false) :
    ∃ probableDropped misordered rme, h.step source (.arrival now raw n) =
      .ok (h.received now n p rme { h.rtp.derived.opened now p.ssrc p.timestamp with
        probableDropped, misordered
        cb := h.rtp.derived.cb.push_back p.frame
        discarded := false
        elastReceived := h.rtp.derived.elastReceived + 1 }, .quiet) := by
  obtain ⟨probableDropped, misordered, rme, steps⟩ := arrival_eq now sane sent live accepts
  have buffers := RTPVoip.bufferFrame_room (v := { h.rtp.derived with probableDropped, misordered }) (f := p.frame) p.ssrc
    onTime room
  refine ⟨probableDropped, misordered, rme, steps.trans ?_⟩
  refine (congrArg (· >>= _) buffers).trans ?_
  rw [RTPVoip.elastReceived_opened]
  change _ = Except.ok (h.received now n p rme { { h.rtp.derived.opened now p.ssrc p.timestamp with
    probableDropped, misordered } with
      cb := h.rtp.derived.cb.push_back p.frame
      discarded := false
      elastReceived := h.rtp.derived.elastReceived + 1 }, Output.quiet)
  rw [← RTPVoip.opened_with]
  rfl

theorem arrivedFrames_received (sent : h.sent[n]? = some p) (now : SimTime) (rme : RTPMemberEntry) (buffered : RTPVoip) :
    (h.received now n p rme buffered).arrivedFrames = p.frame :: h.arrivedFrames := by
  change (n :: h.arrived).filterMap (fun n => h.sent[n]?.map RTPPacket.frame) = _
  exact List.filterMap_cons_some (by rw [sent]; rfl)

theorem playing_received {now : SimTime} {rme : RTPMemberEntry} {buffered : RTPVoip} (playing : Playing source h)
    (sent : h.sent[n]? = some p) (later : h.clock ≤ now) (first : n ∉ h.arrived)
    (sane : Sane source (h.received now n p rme buffered))
    (ordered : PlayoutOrder VoipFrame.timestamp buffered.cb.elements (h.played.map Prod.snd) buffered.dueStamp)
    (stamped : ∀ timer, buffered.playoutTimer = some timer → timer.isScheduled = true →
      timer.arrivalTime ≤ timer.sendingTime + buffered.networkDelay + buffered.params.jitterDelay)
    (once : ∃ discards : List VoipFrame, buffered.db = discards.map VoipFrame.seqNo ∧
      (p.frame :: h.arrivedFrames).Perm (h.played.map Prod.snd ++ discards ++ buffered.cb.elements)) :
    Playing source (h.received now n p rme buffered) where
  toSane := sane
  ordered := ordered.perm (List.perm_insertionSort _ _).symm
  stamped := stamped
  recent q mem := le_trans (playing.recent q mem) later
  distinct := List.nodup_cons.mpr ⟨first, playing.distinct⟩
  known m mem := by
    rcases List.mem_cons.mp mem with rfl | mem
    · exact (List.getElem?_eq_some_iff.mp sent).1
    · exact playing.known m mem
  alive m bound fresh := by
    obtain ⟨apart, fresh⟩ := not_or.mp (mt List.mem_cons.mpr fresh)
    exact StdMap.mem_erase.mpr ⟨fun same => apart same.symm, playing.alive m bound fresh⟩
  once := by
    obtain ⟨discards, dropped, all⟩ := once
    refine ⟨discards, dropped, ?_⟩
    rw [arrivedFrames_received sent]
    exact all.trans ((List.perm_insertionSort _ _).symm.append_left _)

theorem playing_late {now : SimTime} (playing : Playing source h)
    (distinct : h.Distinct (.arrival now raw n)) (sent : h.sent[n]? = some p)
    (accepts : (h.rtp.memberEntry raw p.ssrc).Accepts p.seqNo) (late : h.rtp.derived.Late now p.timestamp)
    (recorded : ¬ h.rtp.derived.Stale) :
    ∃ after, h.step source (.arrival now raw n) = .ok after ∧ h.PlayedInTime after ∧ Playing source after.1 := by
  have live := playing.alive n distinct.1.2 distinct.2
  obtain ⟨probableDropped, misordered, rme, elossEvents, steps, sum⟩ :=
    arrival_late playing.toSane sent live accepts late recorded
  refine ⟨_, steps, ⟨nofun, fun _ => ?_⟩, ?_⟩
  · change elossEvents.sum + BitVec.ofNat 32 h.rtp.derived.db.length =
      h.rtp.derived.elossEvents.sum + BitVec.ofNat 32 (h.rtp.derived.db ++ [p.frame.seqNo]).length
    rw [sum, List.length_append, List.length_singleton, BitVec.ofNat_add, BitVec.add_assoc,
      BitVec.add_comm (BitVec.ofNat 32 _)]
    rfl
  · obtain ⟨discards, dropped, all⟩ := playing.once
    refine playing_received playing sent (distinct.1.1 now rfl).1 distinct.2 (sane_step playing.toSane distinct.1 steps)
      playing.ordered playing.stamped ⟨discards ++ [p.frame], ?_, ?_⟩
    · change h.rtp.derived.db ++ [p.frame.seqNo] = _
      rw [List.map_append, dropped]
      rfl
    · refine (all.cons p.frame).trans ?_
      rw [← List.append_assoc, List.append_assoc (h.played.map Prod.snd ++ discards)]
      exact List.perm_middle.symm

/-- A talkspurt begins with an empty buffer: while frames wait the timer is scheduled, and was set no longer ago than
the delays. -/
theorem empty_of_begin {now : SimTime} (playing : Playing source h) (timely : h.Timely now)
    (begins : h.rtp.derived.talkspurtBegin now = true) : h.rtp.derived.cb.elements = [] := by
  refine playing.ordered.idle.mp (Option.eq_none_iff_forall_ne_some.mpr fun t due => ?_)
  obtain ⟨timer, created, scheduled, -⟩ := RTPVoip.dueStamp_eq_some.mp due
  have recent := playing.stamped timer created scheduled
  have ahead := timely.2.1 timer created scheduled
  have continues := RTPVoip.talkspurtBegin_eq_false.mpr ⟨timer, created, scheduled, by linarith⟩
  exact Bool.noConfusion (begins.symm.trans continues)

theorem ordered_room {now : SimTime} (playing : Playing source h)
    (distinct : h.Distinct (.arrival now raw n)) (sent : h.sent[n]? = some p)
    (onTime : ¬ h.rtp.derived.Late now p.timestamp)
    (newer : h.rtp.derived.talkspurtBegin now = true → ∀ q ∈ h.played, q.2.timestamp < p.timestamp) (ssrc : BitVec 32) :
    PlayoutOrder VoipFrame.timestamp (h.rtp.derived.cb.elements ++ [p.frame]) (h.played.map Prod.snd)
      (h.rtp.derived.opened now ssrc p.timestamp).dueStamp := by
  cases begins : h.rtp.derived.talkspurtBegin now with
  | true =>
      have empty := empty_of_begin playing (distinct.1.1 now rfl) begins
      have ordered := playing.ordered
      rw [empty] at ordered
      rw [empty, RTPVoip.dueStamp_opened_begin begins]
      refine ordered.begin fun f inside => ?_
      obtain ⟨q, mem, rfl⟩ := List.mem_map.mp inside
      exact newer begins q mem
  | false =>
      obtain ⟨t, due, notLate⟩ := RTPVoip.dueStamp_of_not_begin begins
      have ordered := playing.ordered
      rw [due] at ordered
      rw [RTPVoip.opened_of_not_begin begins, due]
      refine (ordered.join (notLate onTime) fun known => ?_).perm (List.perm_append_singleton _ _).symm
      obtain ⟨f, inside, same⟩ := List.mem_map.mp known
      exact fresh_stamp playing sent distinct.2 f inside same

theorem stamped_opened {now : SimTime} (playing : Playing source h) (later : h.clock ≤ now) (sent : h.sent[n]? = some p)
    (ssrc : BitVec 32) (timer : PlayoutTimer)
    (created : (h.rtp.derived.opened now ssrc p.timestamp).playoutTimer = some timer) (scheduled : timer.isScheduled = true) :
    timer.arrivalTime ≤ timer.sendingTime + (h.rtp.derived.opened now ssrc p.timestamp).networkDelay +
      (h.rtp.derived.opened now ssrc p.timestamp).params.jitterDelay := by
  rw [RTPVoip.networkDelay_opened, RTPVoip.params_opened]
  unfold RTPVoip.delayAt
  cases begins : h.rtp.derived.talkspurtBegin now with
  | true =>
      have before := playing.recent p (List.mem_of_getElem? sent)
      rw [RTPVoip.timer_of_begin begins] at created
      cases created
      rw [if_pos rfl]
      dsimp only
      linarith
  | false =>
      rw [RTPVoip.opened_of_not_begin begins] at created
      exact playing.stamped timer created scheduled

theorem playing_room {now : SimTime} (playing : Playing source h)
    (distinct : h.Distinct (.arrival now raw n)) (sent : h.sent[n]? = some p)
    (accepts : (h.rtp.memberEntry raw p.ssrc).Accepts p.seqNo) (onTime : ¬ h.rtp.derived.Late now p.timestamp)
    (room : h.rtp.derived.cb.full = false)
    (newer : h.rtp.derived.talkspurtBegin now = true → ∀ q ∈ h.played, q.2.timestamp < p.timestamp) :
    ∃ after, h.step source (.arrival now raw n) = .ok after ∧ h.PlayedInTime after ∧ Playing source after.1 := by
  have live := playing.alive n distinct.1.2 distinct.2
  have later := (distinct.1.1 now rfl).1
  obtain ⟨probableDropped, misordered, rme, steps⟩ := arrival_room playing.toSane sent live accepts onTime room
  have elements : (h.rtp.derived.cb.push_back p.frame).elements = h.rtp.derived.cb.elements ++ [p.frame] :=
    CircularBuffer.elements_push_back_of_room room
  refine ⟨_, steps, ⟨nofun, fun _ => ?_⟩, ?_⟩
  · change (h.rtp.derived.opened now p.ssrc p.timestamp).elossEvents.sum + _ =
      _ + BitVec.ofNat 32 (h.rtp.derived.opened now p.ssrc p.timestamp).db.length
    rw [RTPVoip.elossEvents_opened, RTPVoip.db_opened]
  · obtain ⟨discards, dropped, all⟩ := playing.once
    refine playing_received playing sent later distinct.2 (sane_step playing.toSane distinct.1 steps) ?_
      (stamped_opened playing later sent p.ssrc) ⟨discards, ?_, ?_⟩
    · change PlayoutOrder _ (h.rtp.derived.cb.push_back p.frame).elements _
        (h.rtp.derived.opened now p.ssrc p.timestamp).dueStamp
      rw [elements]
      exact ordered_room playing distinct sent onTime newer p.ssrc
    · exact (RTPVoip.db_opened _ _).trans dropped
    · change (_ :: _).Perm (_ ++ (h.rtp.derived.cb.push_back p.frame).elements)
      rw [elements, ← List.append_assoc]
      exact (all.cons p.frame).trans (List.perm_append_singleton _ _).symm

/-- Frames that wait were sent before. -/
theorem recent_frame (playing : Playing source h) : ∀ f ∈ h.rtp.derived.cb.elements, f.timestamp ≤ h.clock := by
  intro f inside
  obtain ⟨discards, -, all⟩ := playing.once
  have arrived : f ∈ h.arrivedFrames := all.mem_iff.mpr (List.mem_append_right _ inside)
  obtain ⟨m, mem, located⟩ := List.mem_filterMap.mp arrived
  obtain ⟨q, sent, rfl⟩ := Option.map_eq_some_iff.mp located
  exact playing.recent q (List.mem_of_getElem? sent)

theorem sorted_timestamps (b : CircularBuffer VoipFrame) :
    (b.sort VoipFrame.le).elements.Pairwise fun f g => f.timestamp ≤ g.timestamp := by
  refine (List.pairwise_insertionSort VoipFrame.le b.elements).imp fun le => ?_
  rcases le with below | ⟨same, -⟩
  · exact below.le
  · exact le_of_eq same

def playedFrame (h : VoipHistory) (now : SimTime) (frame : VoipFrame) (timer : PlayoutTimer) : VoipHistory :=
  { h with
    rtp := { h.rtp with derived := { h.rtp.derived.popped frame with playoutTimer := some timer } }
    clock := now
    played := h.played ++ [(now, frame)] }

theorem playing_played {now t : SimTime} {frame : VoipFrame} {rest : List VoipFrame} {timer : PlayoutTimer}
    (playing : Playing source h) (later : h.clock ≤ now) (due : h.rtp.derived.dueStamp = some t)
    (sorted : (h.rtp.derived.cb.sort VoipFrame.le).elements = frame :: rest)
    (sane : Sane source (h.playedFrame now frame timer))
    (next : { h.rtp.derived with playoutTimer := some timer }.dueStamp = rest.head?.map VoipFrame.timestamp)
    (stamped : timer.isScheduled = true →
      timer.arrivalTime ≤ timer.sendingTime + h.rtp.derived.networkDelay + h.rtp.derived.params.jitterDelay) :
    Playing source (h.playedFrame now frame timer) := by
  have waiting : h.rtp.derived.cb.elements.Perm (frame :: rest) := sorted ▸ (List.perm_insertionSort _ _).symm
  have ordered := playing.ordered.perm waiting
  rw [due] at ordered
  have left : (h.rtp.derived.cb.sort VoipFrame.le).pop_front.elements = rest := by
    rw [CircularBuffer.elements_pop_front, sorted, List.tail_cons]
  have played : (h.playedFrame now frame timer).played.map Prod.snd = h.played.map Prod.snd ++ [frame] := List.map_append
  refine ⟨sane, ?_, ?_, fun p mem => le_trans (playing.recent p mem) later, playing.distinct, playing.known, playing.alive, ?_⟩
  · have plays := ordered.play (sorted ▸ sorted_timestamps h.rtp.derived.cb)
    rw [← next, ← played] at plays
    change PlayoutOrder _ (h.rtp.derived.cb.sort VoipFrame.le).pop_front.elements _ _
    rw [left]
    exact plays
  · intro timer' created scheduled
    cases created
    exact stamped scheduled
  · obtain ⟨discards, dropped, all⟩ := playing.once
    refine ⟨discards, dropped, ?_⟩
    change h.arrivedFrames.Perm (_ ++ _ ++ (h.rtp.derived.cb.sort VoipFrame.le).pop_front.elements)
    rw [left, played, List.append_assoc, List.append_assoc, List.singleton_append]
    refine all.trans ?_
    rw [List.append_assoc]
    exact (((waiting.append_left discards).trans List.perm_middle).append_left _)

theorem step_playout (source : BitVec 32) (now : SimTime) {v : RTPVoip} {frame : VoipFrame} {timer : PlayoutTimer}
    (created : h.rtp.derived.playoutTimer = some timer)
    (plays : RTPVoip.playoutBufferedPacket now { h.rtp.derived with playoutTimer := some timer.fire } = .ok (v, frame)) :
    h.step source (.playout now) =
      .ok ({ h with rtp := { h.rtp with derived := v }, clock := now, played := h.played ++ [(now, frame)] },
        .played frame) := by
  unfold step RTPVoip.playout
  rw [created]
  dsimp only [Option.map_some]
  rw [plays]
  rfl

theorem playing_playout {now : SimTime} (playing : Playing source h) (admits : h.Admits (.playout now)) :
    ∃ after, h.step source (.playout now) = .ok after ∧ h.PlayedInTime after ∧ Playing source after.1 := by
  obtain ⟨timer, created, scheduled, arrives⟩ := admits.2
  have later := (admits.1 now rfl).1
  have due := RTPVoip.dueStamp_of_scheduled created scheduled
  have waits : h.rtp.derived.cb.elements ≠ [] := fun empty => by
    rw [playing.ordered.idle.mpr empty] at due
    cases due
  cases sorted : (h.rtp.derived.cb.sort VoipFrame.le).elements with
  | nil => exact absurd (RTPVoip.empty_of_sorted sorted) waits
  | cons frame rest =>
      have waiting : h.rtp.derived.cb.elements.Perm (frame :: rest) := by
        rw [← sorted]
        exact (List.perm_insertionSort _ _).symm
      have timestamps := sorted ▸ sorted_timestamps h.rtp.derived.cb
      have least := (List.pairwise_cons.mp timestamps).1
      have ordered := playing.ordered.perm waiting
      rw [due] at ordered
      have first := ordered.due_eq least
      have onTime : now = h.rtp.derived.playoutTime frame.timestamp := by
        unfold RTPVoip.playoutTime
        linarith
      cases rest with
      | nil =>
          have steps := step_playout source now created (RTPVoip.playout_last (by exact sorted))
          have sane := sane_step playing.toSane admits steps
          refine ⟨_, steps, ⟨fun f same => ?_, fun _ => rfl⟩,
            playing_played playing later due sorted sane (RTPVoip.dueStamp_eq_none.mpr ?_) nofun⟩
          · cases same
            exact onTime
          · intro timer' same
            cases same
            rfl
      | cons next rest =>
          have after : now ≤ h.rtp.derived.playoutTime next.timestamp := by
            have le := least next List.mem_cons_self
            rw [onTime]
            unfold RTPVoip.playoutTime
            linarith
          have plays : RTPVoip.playoutBufferedPacket now { h.rtp.derived with playoutTimer := some timer.fire } =
              .ok ({ h.rtp.derived.popped frame with playoutTimer := some { timer.fire with
                isScheduled := true
                sendingTime := now
                arrivalTime := h.rtp.derived.playoutTime next.timestamp } }, frame) := by
            rw [RTPVoip.playout_next (by exact sorted), deref_some, ok_bind]
            unfold PlayoutTimer.reschedule
            rw [if_neg (not_lt.mpr (by exact after))]
            rfl
          have steps := step_playout source now created plays
          have sane := sane_step playing.toSane admits steps
          refine ⟨_, steps, ⟨fun f same => ?_, fun _ => rfl⟩,
            playing_played playing later due sorted sane (RTPVoip.dueStamp_eq_some.mpr ⟨_, rfl, rfl, rfl⟩) fun _ => ?_⟩
          · cases same
            exact onTime
          · have recent := recent_frame playing next (waiting.mem_iff.mpr (by simp))
            change next.timestamp + h.rtp.derived.networkDelay + h.rtp.derived.params.jitterDelay ≤ now + _ + _
            linarith

theorem Playing.keep (playing : Playing source h) (sane : Sane source after) (sent : after.sent = h.sent)
    (arrived : after.arrived = h.arrived) (played : after.played = h.played) (clock : h.clock ≤ after.clock)
    (cb : after.rtp.derived.cb = h.rtp.derived.cb) (timer : after.rtp.derived.playoutTimer = h.rtp.derived.playoutTimer)
    (delay : after.rtp.derived.networkDelay = h.rtp.derived.networkDelay)
    (params : after.rtp.derived.params = h.rtp.derived.params) (frames : after.rtp.derived.frames = h.rtp.derived.frames)
    (db : after.rtp.derived.db = h.rtp.derived.db) : Playing source after where
  toSane := sane
  ordered := by
    have due : after.rtp.derived.dueStamp = h.rtp.derived.dueStamp := by
      unfold RTPVoip.dueStamp
      rw [timer, delay, params]
    rw [cb, played, due]
    exact playing.ordered
  stamped := by
    rw [timer, delay, params]
    exact playing.stamped
  recent p mem := le_trans (playing.recent p (sent ▸ mem)) clock
  distinct := arrived ▸ playing.distinct
  known := by
    rw [arrived, sent]
    exact playing.known
  alive := by
    rw [arrived, sent, frames]
    exact playing.alive
  once := by
    have same : after.arrivedFrames = h.arrivedFrames := by
      unfold arrivedFrames
      rw [arrived, sent]
    rw [same, played, cb, db]
    exact playing.once

theorem playing_evaluate {now : SimTime} (playing : Playing source h) (admits : h.Admits (.evaluate now)) :
    ∃ after, h.step source (.evaluate now) = .ok after ∧ h.PlayedInTime after ∧ Playing source after.1 := by
  obtain ⟨⟨after, out⟩, steps⟩ := evaluate_returns playing.toSane admits.2
  have sane := sane_step playing.toSane admits steps
  obtain ⟨timer, rme, created, stored, rfl, rfl⟩ := evaluate_inv playing.toSane admits.2 steps
  exact ⟨_, steps, ⟨nofun, fun none => absurd rfl (none _)⟩,
    playing.keep sane rfl rfl rfl (admits.1 now rfl).1 rfl rfl rfl rfl rfl rfl⟩

theorem playing_other {event : RTP.Event} (playing : Playing source h) (admits : h.Admits (.other event)) :
    ∃ after, h.step source (.other event) = .ok after ∧ h.PlayedInTime after ∧ Playing source after.1 := by
  obtain ⟨⟨after, out⟩, steps⟩ := other_returns source admits
  have sane := sane_step playing.toSane admits steps
  refine ⟨_, steps, ?_⟩
  obtain ⟨rtp, stepped, rest⟩ := bind_eq_ok.mp steps
  cases rest
  have quiet : ∀ now raw p, event ≠ .rtp now raw p := by
    rintro now raw p rfl
    exact admits.2
  obtain ⟨same, -⟩ := other_keeps quiet stepped
  refine ⟨⟨nofun, fun _ => ?_⟩, playing.keep sane rfl rfl rfl (le_refl _) ?_ ?_ ?_ ?_ ?_ ?_⟩
  all_goals dsimp only
  all_goals rw [same]

theorem playing_step (playing : Playing source h) (distinct : h.Distinct e) (smooth : h.Smooth e) :
    ∃ after, h.step source e = .ok after ∧ h.PlayedInTime after ∧ Playing source after.1 := by
  cases e with
  | send now => exact ⟨_, rfl, ⟨nofun, fun _ => rfl⟩, playing_send playing distinct.1 rfl⟩
  | arrival now raw n =>
      have sent : h.sent[n]? = some _ := List.getElem?_eq_getElem distinct.1.2
      obtain ⟨accepts, recorded, room, newer⟩ := smooth _ sent
      by_cases late : h.rtp.derived.Late now (h.sent.get ⟨n, distinct.1.2⟩).timestamp
      · exact playing_late playing distinct sent accepts late (recorded late)
      · exact playing_room playing distinct sent accepts late (room late) newer
  | playout now => exact playing_playout playing distinct.1
  | evaluate now => exact playing_evaluate playing distinct.1
  | other event => exact playing_other playing distinct.1

theorem playing_runs {own : BitVec 32} {params : VoipParams} {es : List Event}
    (runs : Runs (next source) (fun h e => h.Distinct e ∧ h.Smooth e) (start own raw params) es h) : Playing source h := by
  refine runs.invariant _ (fun h e h' playing ok steps => ?_) (playing_start own raw params)
  obtain ⟨after, steps', -, plays⟩ := playing_step playing ok.1 ok.2
  obtain ⟨_, stepped, rfl⟩ := map_eq_ok steps
  cases stepped.symm.trans steps'
  exact plays

end VoipHistory

open VoipHistory in
/-- In every run of distinct frames that is smooth, every state has the timer and the buffer in order, and every step
goes through and plays in time. -/
theorem voip_playout {own source : BitVec 32} (raw : RTPMemberEntry) (params : VoipParams)
    {es : List VoipHistory.Event} {h : VoipHistory}
    (runs : Runs (next source) (fun h e => h.Distinct e ∧ h.Smooth e) (start own raw params) es h) :
    h.Plays ∧ ∀ e, h.Distinct e → h.Smooth e → ∃ after, h.step source e = .ok after ∧ h.PlayedInTime after := by
  have playing := playing_runs runs
  refine ⟨plays_of_playing playing, fun e distinct smooth => ?_⟩
  obtain ⟨after, steps, inTime, -⟩ := playing_step playing distinct smooth
  exact ⟨after, steps, inTime⟩

/-- Frames of 20 ms, a jitter delay of one frame: the buffer holds two -/
def exampleShort : VoipParams := { exampleVoip with jitterDelay := 1 / 50, jitterDelay_nonneg := by decide +kernel }

open VoipHistory in
/-- One frame is overtaken and still played in its place, the other is late. -/
theorem voip_playout_reordered : ∃ es h,
    Runs (next 7) (fun h e => h.Distinct e ∧ h.Smooth e) (start 1 exampleEntry exampleVoip) es h ∧
      h.played = [(29 / 25, ⟨1, 0⟩), (59 / 50, ⟨51 / 50, 1⟩), (61 / 50, ⟨53 / 50, 3⟩)] ∧ h.rtp.derived.db = [2] ∧ h.Plays := by
  have checked : (run (fun h e => Exec.assert (Distinct h e ∧ Smooth h e) >>= fun _ => next 7 h e)
      (start 1 exampleEntry exampleVoip)
      [.send 1, .send (51 / 50), .send (26 / 25), .send (53 / 50), .arrival (11 / 10) exampleEntry 0,
        .arrival (23 / 20) exampleEntry 3, .arrival (231 / 200) exampleEntry 1, .playout (29 / 25), .playout (59 / 50),
        .arrival (119 / 100) exampleEntry 2, .playout (61 / 50)]).map
      (fun h => decide (h.played = [(29 / 25, ⟨1, 0⟩), (59 / 50, ⟨51 / 50, 1⟩), (61 / 50, ⟨53 / 50, 3⟩)] ∧
        h.rtp.derived.db = [2])) = .ok true := by
    decide +kernel
  obtain ⟨h, runs, same⟩ := map_eq_ok checked
  obtain ⟨played, db⟩ := of_decide_eq_true same
  exact ⟨_, h, Runs.of_checked runs, played, db, (voip_playout exampleEntry exampleVoip (Runs.of_checked runs)).1⟩

open VoipHistory in
/-- A full buffer loses the frame the timer is set for; the timer is then not that of the earliest frame, and if the
frame is due now the assertion fails. A frame that comes after later ones were played is played. -/
theorem voip_playout_fails :
    (∃ es h, Runs (next 7) Distinct (start 1 exampleEntry exampleShort) es h ∧ ¬ h.Plays) ∧
    (∃ es h e, Runs (next 7) Distinct (start 1 exampleEntry exampleShort) es h ∧ h.Distinct e ∧
      h.step 7 e = .error .assertFailed) ∧
    ∃ es h, Runs (next 7) Distinct (start 1 exampleEntry exampleVoip) es h ∧
      h.played.map (fun q => q.2.timestamp) = [51 / 50, 1] ∧ ¬ h.Plays := by
  have full : (run (fun h e => Exec.assert (Distinct h e) >>= fun _ => next 7 h e) (start 1 exampleEntry exampleShort)
      [.send 1, .send (51 / 50), .send (26 / 25), .arrival (6 / 5) exampleEntry 0, .arrival (6 / 5) exampleEntry 1,
        .arrival (121 / 100) exampleEntry 2]).map (fun h => decide (h.rtp.derived.playoutTimer =
          some ⟨7, true, 6 / 5, 61 / 50⟩ ∧ ∀ f ∈ h.rtp.derived.cb.elements,
            h.rtp.derived.playoutTime f.timestamp ≠ 61 / 50)) = .ok true := by
    decide +kernel
  have due : (run (fun h e => Exec.assert (Distinct h e) >>= fun _ => next 7 h e) (start 1 exampleEntry exampleShort)
      [.send 1, .send (51 / 50), .send (26 / 25), .arrival (6 / 5) exampleEntry 0, .arrival (6 / 5) exampleEntry 1]).map
        (fun h => decide (h.Distinct (.arrival (61 / 50) exampleEntry 2) ∧
          h.fault 7 (.arrival (61 / 50) exampleEntry 2) = some .assertFailed)) = .ok true := by
    decide +kernel
  have order : (run (fun h e => Exec.assert (Distinct h e) >>= fun _ => next 7 h e) (start 1 exampleEntry exampleVoip)
      [.send 1, .send (51 / 50), .arrival (11 / 10) exampleEntry 1, .playout (29 / 25), .arrival (6 / 5) exampleEntry 0,
        .playout (63 / 50)]).map (fun h => decide (h.played.map (fun q => q.2.timestamp) = [51 / 50, 1])) = .ok true := by
    decide +kernel
  refine ⟨?_, ?_, ?_⟩
  · obtain ⟨h, runs, same⟩ := map_eq_ok full
    obtain ⟨created, others⟩ := of_decide_eq_true same
    refine ⟨_, h, Runs.of_checked runs, fun plays => ?_⟩
    obtain ⟨f, inside, -, arrives⟩ := plays.earliest _ created rfl
    exact others f inside arrives.symm
  · obtain ⟨h, runs, same⟩ := map_eq_ok due
    obtain ⟨distinct, fails⟩ := of_decide_eq_true same
    exact ⟨_, h, _, Runs.of_checked runs, distinct, step_of_fault fails⟩
  · obtain ⟨h, runs, same⟩ := map_eq_ok order
    have played := of_decide_eq_true same
    refine ⟨_, h, Runs.of_checked runs, played, fun plays => ?_⟩
    have order := plays.order
    have timestamps : (h.played.map (fun q => q.2.timestamp)).Pairwise (· < ·) := by
      rw [List.pairwise_map] at order ⊢
      exact order
    rw [played] at timestamps
    exact absurd timestamps (by decide +kernel)

end IPv6Suite
