import IPv6Suite.BindingSequence

namespace IPv6Suite

open Lib

/-- The numbers `q` of an entry from which the node gets back into the window of an agent that has
`s` cached: `s` itself, which is skipped, or a number above it that needs no acknowledgement. -/
def Resynchronises (q : BitVec 32) (s : BitVec 16) : Prop :=
  if q = s.setWidth 32 then s.toNat + 2 < 2 ^ 16
  else s.toNat < ((q + 1).setWidth 16).toNat ∧ ((q + 1).setWidth 16).toNat < s.toNat + 2 ^ 15

instance resynchronisesDecidable (q : BitVec 32) (s : BitVec 16) :
    Decidable (Resynchronises q s) := by
  unfold Resynchronises
  infer_instance

namespace MobileNode

variable {mn mn' : MobileNode} {dest other : Ipv6Addr} {bue : BuEntry} {ba : BA}

/-- Nothing that sends, acknowledges or removes. -/
def Quiet (_ : MobileNode) : MobileNodeEvent → Prop
  | .wait _ | .bindings _ | .routability .. => True
  | _ => False

theorem number_quiet {e : MobileNodeEvent} (quiet : mn.Quiet e) (steps : mn.step e = .ok mn') :
    mn'.number dest = mn.number dest := by
  cases e with
  | wait now =>
      cases steps
      rfl
  | bindings bc =>
      cases steps
      rfl
  | routability other homeNI careOfNI hoti coti =>
      cases steps
      exact number_modifyBU (fun _ same => same) fun _ _ => rfl
  | _ => cases quiet

theorem number_quiet_run {es : List MobileNodeEvent} (runs : Runs step Quiet mn es mn') :
    mn'.number dest = mn.number dest :=
  runs.invariant (fun mn' => mn'.number dest = mn.number dest)
    (fun _ _ _ same quiet steps => (number_quiet quiet steps).trans same) rfl

theorem number_outOfWindow {accepted : Bool} (found : mn.findBU dest = some bue)
    (status : ba.status = .seqOutOfWindow) (acknowledges : mn.processBA ba dest = .ok (accepted, mn')) :
    mn'.number dest = some (if bue.sequence = ba.sequence.setWidth 32 then bue.sequence + 1
      else bue.sequence) := by
  rcases processBA_cases acknowledges with ⟨bu, before, differs, -, rfl⟩ | ⟨stopped, stops, -, rest⟩
  · rw [found] at before
    cases before
    rw [if_neg (Ne.symm differs)]
    exact congrArg (Option.map _) found
  · rw [found] at rest
    obtain ⟨absent, -⟩ | ⟨bu, before, latest, updates⟩ := rest
    · cases absent
    cases before
    rw [if_pos latest.symm]
    have after : acknowledged bue ba = some { bue with sequence := bue.sequence + 1 } := by
      unfold acknowledged
      rw [status]
      dsimp only
      have window : lessThanEqualsModulo bue.sequence bue.sequence 16 = true := by
        unfold lessThanEqualsModulo
        rw [decide_eq_true (BitVec.le_refl _), Bool.true_or]
      rw [latest, if_pos window]
    obtain ⟨bue', updated, rfl⟩ | ⟨removed, -⟩ := updates
    · rw [after] at updated
      cases updated
      have present : stopped.findBU dest = some bue :=
        (congrArg (BindingUpdateList.findBU · dest) (stopTmr_ok stops).1).trans found
      have now : ∀ new : BuEntry, new.addr = dest →
          (stopped.modifyBU dest fun _ => new).number dest = some new.sequence := by
        rintro new rfl
        exact (Written.modifyBU present rfl).number
      have addr : bue.addr = dest := BindingUpdateList.findBU_addr found
      exact now _ addr
    · rw [after] at removed
      cases removed

end MobileNode

namespace MIPv6MobilityState

variable {bc : BindingCache} {dgram : MobilityDatagram BU} {reply : BADatagram} {bce : BcEntry}

theorem preprocessBU_outOfWindow (rejects : preprocessBU bc dgram = .ok (false, some reply))
    (status : reply.ba.status = .seqOutOfWindow) (cached : bc.findBinding (hoa dgram) = some bce) :
    Routable (hoa dgram) ∧ reply.srcAddress = dgram.destAddress ∧ reply.ba.sequence = bce.seqNo.setWidth 16 := by
  obtain ⟨accepted, -⟩ | ⟨-, none | ⟨other, found, routable, ⟨-, sent⟩ | ⟨-, sent⟩⟩⟩ :=
    preprocessBU_cases rejects
  · cases accepted
  · cases none
  · rw [cached] at found
    cases found
    obtain ⟨source, ba⟩ := MobilityDatagram.answer_some sent.symm
    exact ⟨routable, source, congrArg BA.sequence ba⟩
  · obtain ⟨-, ba⟩ := MobilityDatagram.answer_some sent.symm
    rw [ba] at status
    cases status

theorem preprocessBU_accepts_iff {s : BitVec 16} (cached : bc.findBinding (hoa dgram) = some bce)
    (number : bce.seqNo = s.setWidth 32) (routable : Routable (hoa dgram))
    (sameType : bce.isHomeReg = dgram.encapsulatedMsg.homereg) (home : dgram.homeAddressOpt ≠ none)
    (stamped : dgram.timestamp ≠ 0) : preprocessBU bc dgram = .ok (true, none) ↔
      s.toNat < dgram.encapsulatedMsg.sequence.toNat ∧ dgram.encapsulatedMsg.sequence.toNat < s.toNat + 2 ^ 15 := by
  have cached_number : bce.seqNo.toNat = s.toNat := by
    rw [number]
    exact BitVec.toNat_setWidth_of_le (by decide)
  have window : lessThanEqualsModulo (dgram.encapsulatedMsg.sequence.setWidth 32) bce.seqNo 16 =
        false ↔ s.toNat < dgram.encapsulatedMsg.sequence.toNat ∧
          dgram.encapsulatedMsg.sequence.toNat < s.toNat + 2 ^ 15 := by
    rw [← Bool.not_eq_true, lessThanEqualsModulo_short (cached_number ▸ s.isLt), cached_number]
    omega
  rw [← window]
  constructor
  · intro accepts
    obtain ⟨-, -, valid⟩ | ⟨refused, -⟩ := preprocessBU_cases accepts
    · exact valid.newer bce cached
    · cases refused
  · intro newer
    refine preprocessBU_valid ⟨routable, ?_, ?_, fun _ => home⟩ stamped
    · intro other found
      rw [cached] at found
      cases found
      exact newer
    · intro other found
      rw [cached] at found
      cases found
      exact sameType

end MIPv6MobilityState

open MIPv6MobilityState in
/-- Once the node has the acknowledgement that is out of the window, its next Binding Update is above
what is cached and valid just if the entry's number was one that resynchronises. -/
theorem binding_resync {mn mn₁ mn₂ mn₃ : MobileNode} {bc : BindingCache} {bce : BcEntry}
    {s : BitVec 16} {rejected dgram : MobilityDatagram BU} {reply : BADatagram} {bue : BuEntry}
    {accepted : Bool} {es : List MobileNodeEvent} {coa : Ipv6Addr} {lifetime : Nat} {mapReg : Bool}
    {timestamp : ℚ}
    (cached : bc.findBinding (hoa rejected) = some bce) (number : bce.seqNo = s.setWidth 32)
    (rejects : preprocessBU bc rejected = .ok (false, some reply))
    (status : reply.ba.status = .seqOutOfWindow)
    (entry : mn.findBU rejected.destAddress = some bue)
    (acknowledges : mn.processBA reply.ba reply.srcAddress = .ok (accepted, mn₁))
    (quiet : Runs MobileNode.step MobileNode.Quiet mn₁ es mn₂)
    (own : mn₂.findBuleFor rejected.destAddress = mn₂.findBU rejected.destAddress)
    (sends : mn₂.sendBU rejected.destAddress coa (hoa rejected) lifetime bce.isHomeReg mapReg
      timestamp = .ok (some dgram, mn₃)) (stamped : dgram.timestamp ≠ 0) :
    s.toNat < dgram.encapsulatedMsg.sequence.toNat ∧ preprocessBU bc dgram = .ok (true, none) ↔
      Resynchronises bue.sequence s := by
  obtain ⟨routable, source, carried⟩ := preprocessBU_outOfWindow rejects status cached
  rw [source] at acknowledges
  have short : reply.ba.sequence = s := by
    rw [carried, number]
    exact BitVec.setWidth_setWidth_of_le _ (by decide)
  have resumed := MobileNode.number_outOfWindow entry status acknowledges
  rw [← MobileNode.number_quiet_run quiet, short] at resumed
  obtain ⟨none, -⟩ | ⟨d, old, new, same, sent⟩ := MobileNode.sendBU_cases sends
  · cases none
  cases same
  obtain ⟨before, found, sequence⟩ := Option.map_eq_some_iff.mp resumed
  have old_eq : old = some before := sent.found.symm.trans (own.trans found)
  have home : hoa dgram = hoa rejected := by
    unfold hoa
    rw [sent.homeAddressOpt]
    rfl
  have field : dgram.encapsulatedMsg.sequence = (before.sequence + 1).setWidth 16 := by
    rw [sent.sent, sent.sequence, old_eq]
    rfl
  rw [preprocessBU_accepts_iff (home ▸ cached) number (home ▸ routable) sent.homereg.symm
    (sent.homeAddressOpt ▸ Option.some_ne_none _) stamped, field, sequence]
  unfold Resynchronises
  have bound := s.isLt
  split
  · rename_i latest
    have next : ((bue.sequence + 1 + 1).setWidth 16).toNat = (s.toNat + 2) % 2 ^ 16 := by
      rw [latest]
      bv_omega
    omega
  · omega

open MIPv6MobilityState in
/-- Number 0 was rejected and sent again as number 1, which is cached. Number 2 is skipped. -/
theorem binding_resync_example :
    ∃ (mn : MobileNode) (bc : BindingCache) (rejected : MobilityDatagram BU) (bue : BuEntry)
      (reply : BADatagram) (mn₁ : MobileNode) (dgram : MobilityDatagram BU) (mn₂ : MobileNode),
      preprocessBU bc rejected = .ok (false, some reply) ∧ rejected.encapsulatedMsg.sequence = 0 ∧
      mn.findBU rejected.destAddress = some bue ∧ bue.sequence = 1 ∧
      mn.processBA reply.ba reply.srcAddress = .ok (false, mn₁) ∧
      mn₁.sendBU rejected.destAddress ⟨0x20000000, 0, 2, 2⟩ (hoa rejected) 100 true false 0 =
        .ok (some dgram, mn₂) ∧
      preprocessBU bc dgram = .ok (true, none) := by
  obtain ⟨mn, bc, rejected, bue, rejects, zero, entry, one, cached, mn₁, acknowledges, own, dgram,
      mn₂, sends, stamped⟩ :
      ∃ (mn : MobileNode) (bc : BindingCache) (rejected : MobilityDatagram BU) (bue : BuEntry),
        preprocessBU bc rejected = .ok (false, some ⟨rejected.destAddress, rejected.srcAddress,
          some (hoa rejected), ⟨.seqOutOfWindow, 1, 100⟩⟩) ∧
        rejected.encapsulatedMsg.sequence = 0 ∧
        mn.findBU rejected.destAddress = some bue ∧ bue.sequence = 1 ∧
        bc.findBinding (hoa rejected) = some ⟨hoa rejected, rejected.srcAddress, 100, 1, true⟩ ∧
        ∃ mn₁, mn.processBA ⟨.seqOutOfWindow, 1, 100⟩ rejected.destAddress = .ok (false, mn₁) ∧
          mn₁.findBuleFor rejected.destAddress = mn₁.findBU rejected.destAddress ∧
          ∃ dgram mn₂, mn₁.sendBU rejected.destAddress ⟨0x20000000, 0, 2, 2⟩ (hoa rejected) 100
            true false 0 = .ok (some dgram, mn₂) ∧ dgram.timestamp = 1 :=
    ⟨{ MobileNode.create ⟨0x20000000, 0, 0, 2⟩ ⟨0x20000000, 0, 0, 1⟩ with
        now := 1
        bul := [BuEntry.create ⟨0x20000000, 0, 0, 1⟩ ⟨0x20000000, 0, 0, 2⟩ ⟨0x20000000, 0, 1, 2⟩
          100 1 1 true false] },
      Std.TreeMap.insert ∅ ⟨0x20000000, 0, 0, 2⟩
        ⟨⟨0x20000000, 0, 0, 2⟩, ⟨0x20000000, 0, 1, 2⟩, 100, 1, true⟩,
      ⟨⟨0x20000000, 0, 1, 2⟩, ⟨0x20000000, 0, 0, 1⟩, some ⟨0x20000000, 0, 0, 2⟩, -1, 1,
        ⟨true, true, true, false, 0, 100, none, none, false⟩⟩,
      _, rfl, rfl, rfl, rfl, rfl, _, rfl, rfl, _, _, rfl, rfl⟩
  have known : Resynchronises bue.sequence 1 := by
    rw [one]
    decide
  have resync := binding_resync (s := 1) cached rfl rejects rfl entry acknowledges (.nil mn₁) own
    sends (stamped ▸ one_ne_zero)
  exact ⟨mn, bc, rejected, bue, _, mn₁, dgram, mn₂, rejects, zero, entry, one, acknowledges, sends,
    (resync.mpr known).2⟩

open MIPv6MobilityState in
/-- An entry that was created again starts with number 0. Its acknowledgement carries the number that
is cached and is ignored, so that the next Binding Update is rejected too. -/
theorem resync_ignored :
    let mn := { MobileNode.create ⟨0x20000000, 0, 0, 2⟩ ⟨0x20000000, 0, 0, 1⟩ with now := 1 }
    let bc : BindingCache := Std.TreeMap.insert ∅ ⟨0x20000000, 0, 0, 2⟩
      ⟨⟨0x20000000, 0, 0, 2⟩, ⟨0x20000000, 0, 1, 2⟩, 100, 5, true⟩
    ∃ first mn₁ reply mn₂ second mn₃ again,
      mn.sendBU ⟨0x20000000, 0, 0, 1⟩ ⟨0x20000000, 0, 1, 2⟩ ⟨0x20000000, 0, 0, 2⟩ 100 true false 0 =
        .ok (some first, mn₁) ∧
      preprocessBU bc first = .ok (false, some reply) ∧ reply.ba = ⟨.seqOutOfWindow, 5, 100⟩ ∧
      mn₁.processBA reply.ba reply.srcAddress = .ok (false, mn₂) ∧
      mn₂.sendBU ⟨0x20000000, 0, 0, 1⟩ ⟨0x20000000, 0, 2, 2⟩ ⟨0x20000000, 0, 0, 2⟩ 100 true false 0 =
        .ok (some second, mn₃) ∧
      second.encapsulatedMsg.sequence = 1 ∧ preprocessBU bc second = .ok (false, some again) :=
  ⟨_, _, _, _, _, _, _, rfl, rfl, rfl, rfl, rfl, rfl, rfl⟩

end IPv6Suite
