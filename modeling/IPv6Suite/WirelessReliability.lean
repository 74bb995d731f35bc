import IPv6Suite.WirelessLink

namespace IPv6Suite

open Lib

namespace WirelessStation

variable {s : WirelessStation} {data : WirelessEtherFrame}

/-- What the station takes for a duplicate it neither passes on nor acknowledges, and neither a frame that has its
own address as the third. -/
theorem handleData_silent {weak : Bool} (silent : s.address = data.address3 ∨
      data.retry = true ∧ s.associateAP.receivedSequence = data.sequenceNumber.toNat) :
    s.handleData data weak = .ok s := by
  apply if_neg
  rintro ⟨_, _, other, fresh⟩
  rcases silent with own | ⟨again, same⟩
  · exact other own
  · simp [again, same] at fresh

theorem handleData_delivers {msg : Nat} (weak : Bool) (receiver : data.address1 = s.address)
    (unicast : s.address ≠ MACAddress6.broadcast)
    (peer : s.associateAP.address = data.address2) (idle : s.sendAckTimer = none)
    (carries : data.encapsulatedMsg = some msg) (other : s.address ≠ data.address3)
    (fresh : ¬ (data.retry = true ∧ s.associateAP.receivedSequence = data.sequenceNumber.toNat)) :
    ∃ s', s.handleData data weak = .ok s' ∧ s'.address = s.address ∧ s'.acks = ⟨data.address2⟩ :: s.acks ∧
      s'.upper = msg :: s.upper ∧ s'.associateAP.receivedSequence = data.sequenceNumber.toNat := by
  have accepted : s.associateAP.receivedSequence ≠ data.sequenceNumber.toNat ∨ data.retry = false := by
    by_cases again : data.retry = true
    · exact Or.inl fun same => fresh ⟨again, same⟩
    · exact Or.inr (Bool.eq_false_iff.mpr again)
  have own : data.address1 ≠ MACAddress6.broadcast := receiver ▸ unicast
  unfold handleData
  rw [if_pos ⟨by simp [isFrameForMe, receiver], peer, other, accepted⟩]
  cases weak <;> simp [sendToUpperLayer, carries, own, scheduleAck, Exec.assert, idle, restartScanning]

@[simp] theorem address_handleAck (ack : AckFrame) : (s.handleAck ack).address = s.address := by
  unfold handleAck
  split <;> rfl

@[simp] theorem acks_handleAck (ack : AckFrame) : (s.handleAck ack).acks = s.acks := by
  unfold handleAck
  split <;> rfl

@[simp] theorem upper_handleAck (ack : AckFrame) : (s.handleAck ack).upper = s.upper := by
  unfold handleAck
  split <;> rfl

end WirelessStation

namespace WirelessAccessPoint

variable {ap ap' : WirelessAccessPoint} {data : WirelessEtherFrame}

/-- What a function of the access point leaves alone when it only changes the interfaces, its timers and its queue -/
structure SameOutputs (ap ap' : WirelessAccessPoint) : Prop where
  address : ap'.address = ap.address
  acks : ap'.acks = ap.acks
  passed : ap'.passed = ap.passed

namespace SameOutputs

theorem refl (ap : WirelessAccessPoint) : SameOutputs ap ap := ⟨rfl, rfl, rfl⟩

theorem trans {ap'' : WirelessAccessPoint} (first : SameOutputs ap ap') (second : SameOutputs ap' ap'') :
    SameOutputs ap ap'' :=
  ⟨second.address.trans first.address, second.acks.trans first.acks, second.passed.trans first.passed⟩

theorem addOrUpdate (ap : WirelessAccessPoint) (p : WirelessEtherInterface) : SameOutputs ap (ap.addOrUpdate p) :=
  ⟨rfl, rfl, rfl⟩

theorem remove (ap : WirelessAccessPoint) (mac : MACAddress6) : SameOutputs ap (ap.remove mac) := ⟨rfl, rfl, rfl⟩

theorem addIface (ap : WirelessAccessPoint) (mac : MACAddress6) (mode : ReceiveMode) (number : Int) :
    SameOutputs ap (ap.addIface mac mode number) := addOrUpdate _ _

theorem finishFrameTx (ap : WirelessAccessPoint) (frame : WirelessEtherFrame) :
    SameOutputs ap (ap.finishFrameTx frame) := by
  unfold WirelessAccessPoint.finishFrameTx
  dsimp only
  split
  · exact ⟨rfl, rfl, rfl⟩
  · exact ⟨rfl, rfl, rfl⟩

theorem handleAck (ap : WirelessAccessPoint) (ack : AckFrame) : SameOutputs ap (ap.handleAck ack) := by
  unfold WirelessAccessPoint.handleAck
  split
  · split
    · apply SameOutputs.trans _ (finishFrameTx _ _)
      split
      · apply SameOutputs.trans _ (addIface _ _ _ _)
        split
        · exact addIface _ _ _ _
        · exact refl _
      · split
        · exact addIface _ _ _ _
        · exact refl _
    · exact refl _
  · exact refl _

theorem updateConsecutiveFailedCount (ap : WirelessAccessPoint) (frame : WirelessEtherFrame) :
    SameOutputs ap (ap.updateConsecutiveFailedCount frame) := by
  unfold WirelessAccessPoint.updateConsecutiveFailedCount
  split
  · dsimp only
    split
    · split
      · exact remove _ _
      · exact addOrUpdate _ _
    · exact refl _
  · exact refl _

end SameOutputs

theorem find_addOrUpdate (p : WirelessEtherInterface) (mac : MACAddress6) :
    (ap.addOrUpdate p).findIfaceByMAC mac = if p.address = mac then p else ap.findIfaceByMAC mac := by
  unfold findIfaceByMAC addOrUpdate KeyList.find
  rw [List.find?_append]
  by_cases same : p.address = mac
  · subst same
    have gone : (ap.ifaces.filter (·.address ≠ p.address)).find? (fun x => x.address = p.address) = none := by
      simp
    rw [gone]
    simp
  · have others : (ap.ifaces.filter (·.address ≠ p.address)).find? (fun x => x.address = mac) =
        ap.ifaces.find? fun x => x.address = mac := by
      rw [List.find?_filter]
      congr 1
      funext x
      by_cases own : x.address = mac
      · simp [own, Ne.symm same]
      · simp [own]
    rw [others]
    simp [same]

theorem address_find {mac : MACAddress6}
    (known : (ap.findIfaceByMAC mac).address ≠ WirelessEtherInterface.unspecified.address) :
    (ap.findIfaceByMAC mac).address = mac := by
  unfold findIfaceByMAC at known ⊢
  cases found : KeyList.find WirelessEtherInterface.address mac ap.ifaces with
  | none => simp [found] at known
  | some iface => simpa using KeyList.find_key found

@[simp] theorem find_incrementSequenceNumber (mac : MACAddress6) :
    ap.incrementSequenceNumber.findIfaceByMAC mac = ap.findIfaceByMAC mac := rfl

@[simp] theorem find_pass (frame : WirelessEtherFrame) (passage : Passage) (mac : MACAddress6) :
    (ap.pass frame passage).findIfaceByMAC mac = ap.findIfaceByMAC mac := rfl

/-- A frame that is accepted is passed on once, and its number stored. -/
structure Passes (data : WirelessEtherFrame) (ap ap' : WirelessAccessPoint) : Prop where
  address : ap'.address = ap.address
  acks : ap'.acks = ap.acks
  passed : ∃ frame passage, ap'.passed = (frame, passage) :: ap.passed ∧ frame.address3 = data.address2 ∧
    frame.encapsulatedMsg = data.encapsulatedMsg
  stored : (ap'.findIfaceByMAC data.address2).currentSequence = data.sequenceNumber.toNat

theorem acceptData_passes (ap : WirelessAccessPoint) (data : WirelessEtherFrame) :
    ∃ ap', ap.acceptData data = .ok ap' ∧ Passes data ap ap' := by
  have stored : ((ap.addIface data.address2 .data data.sequenceNumber.toNat).findIfaceByMAC
      data.address2).currentSequence = data.sequenceNumber.toNat := by
    simp [addIface, find_addOrUpdate]
  unfold acceptData
  dsimp only
  split
  · exact ⟨_, rfl, rfl, rfl, ⟨_, _, rfl, rfl, rfl⟩, stored⟩
  · split
    · exact ⟨_, rfl, rfl, rfl, ⟨_, _, rfl, rfl, rfl⟩, stored⟩
    · rename_i unicast known
      have unicast : data.address3 ≠ MACAddress6.broadcast := unicast
      rw [if_pos unicast, assert_pos known]
      refine ⟨_, rfl, rfl, rfl, ⟨_, _, rfl, rfl, rfl⟩, ?_⟩
      rw [find_pass, find_addOrUpdate]
      -- The renewed entry may be the one of the station itself.
      split
      · rename_i own
        have same : data.address3 = data.address2 := (address_find known).symm.trans own
        simpa [same] using stored
      · exact stored

theorem known_of_mode {mac : MACAddress6} (specified : mac ≠ MACAddress6.unspecified)
    (mode : (ap.findIfaceByMAC mac).receiveMode = .data) :
    (ap.findIfaceByMAC mac).address ≠ WirelessEtherInterface.unspecified.address := by
  unfold findIfaceByMAC at mode ⊢
  cases found : KeyList.find WirelessEtherInterface.address mac ap.ifaces with
  | none => simp [found, WirelessEtherInterface.unspecified] at mode
  | some iface =>
      rw [Option.getD_some, KeyList.find_key found]
      exact specified

theorem scheduleAck_idle (idle : ap.sendAckTimer = none) (ack : AckFrame) :
    ap.scheduleAck ack = .ok { ap with sendAckTimer := some ack, acks := ack :: ap.acks } := by
  simp [scheduleAck, Exec.assert, idle]

theorem disAssociate_known {mac : MACAddress6}
    (known : (ap.findIfaceByMAC mac).address ≠ WirelessEtherInterface.unspecified.address) : ap.disAssociate mac =
      .ok ((ap.remove (ap.findIfaceByMAC mac).address).queueManagementFrame .disAssociation mac) := by
  simp [disAssociate, Exec.assert, known]

section Station

variable (idle : ap.sendAckTimer = none) (receiver : data.address1 = ap.address)
  (toDS : data.toDS = true ∧ data.fromDS = false) (specified : data.address2 ≠ MACAddress6.unspecified)
  (mode : (ap.findIfaceByMAC data.address2).receiveMode = .data)

include idle receiver toDS specified mode

/-- Every frame of a station in data mode is acknowledged, also one that is taken for a duplicate. -/
theorem handleData_duplicate (duplicate : data.retry = true ∧
      (ap.findIfaceByMAC data.address2).currentSequence = data.sequenceNumber.toNat) : ap.handleData data =
      .ok { ap with sendAckTimer := some ⟨data.address2⟩, acks := ⟨data.address2⟩ :: ap.acks } := by
  have known := known_of_mode specified mode
  have same (ack : AckFrame) : ({ ap with sendAckTimer := some ack, acks := ack :: ap.acks }).findIfaceByMAC
      data.address2 = ap.findIfaceByMAC data.address2 := rfl
  unfold handleData
  rw [if_pos ⟨by simp [isFrameForMe, receiver], toDS⟩, scheduleAck_idle idle, ok_bind]
  simp [same, known, mode, duplicate]

theorem handleData_fresh (fresh : ¬ (data.retry = true ∧
      (ap.findIfaceByMAC data.address2).currentSequence = data.sequenceNumber.toNat)) :
    ∃ ap', ap.handleData data = .ok ap' ∧
      Passes data { ap with sendAckTimer := some ⟨data.address2⟩, acks := ⟨data.address2⟩ :: ap.acks } ap' := by
  have known := known_of_mode specified mode
  have same (ack : AckFrame) : ({ ap with sendAckTimer := some ack, acks := ack :: ap.acks }).findIfaceByMAC
      data.address2 = ap.findIfaceByMAC data.address2 := rfl
  have accepted : (ap.findIfaceByMAC data.address2).currentSequence ≠ data.sequenceNumber.toNat ∨
      data.retry = false := by
    by_cases again : data.retry = true
    · exact Or.inl fun number => fresh ⟨again, number⟩
    · exact Or.inr (Bool.eq_false_iff.mpr again)
  unfold handleData
  rw [if_pos ⟨by simp [isFrameForMe, receiver], toDS⟩, scheduleAck_idle idle, ok_bind]
  dsimp only
  rw [same, if_neg (by simp [known, mode]), if_neg (by simp [mode]), if_pos accepted]
  exact acceptData_passes _ _

end Station

/-- What a frame of some station can change outside the interfaces: an acknowledgement for that station, and
a frame that is passed on as from it. -/
structure Handles (data : WirelessEtherFrame) (ap ap' : WirelessAccessPoint) : Prop where
  address : ap'.address = ap.address
  acks : ap'.acks = ap.acks ∨ ap'.acks = ⟨data.address2⟩ :: ap.acks
  passed : ap'.passed = ap.passed ∨
    ∃ frame passage, ap'.passed = (frame, passage) :: ap.passed ∧ frame.address3 = data.address2

theorem handleData_handles (data : WirelessEtherFrame) (idle : ap.sendAckTimer = none) :
    ∃ ap', ap.handleData data = .ok ap' ∧ Handles data ap ap' := by
  unfold handleData
  split
  · rw [scheduleAck_idle idle, ok_bind]
    dsimp only
    split
    · exact ⟨_, rfl, rfl, Or.inr rfl, Or.inl rfl⟩
    · rename_i known
      split
      · rw [disAssociate_known fun unknown => known (Or.inl unknown)]
        exact ⟨_, rfl, rfl, Or.inr rfl, Or.inl rfl⟩
      · split
        · obtain ⟨ap', done, passes⟩ := acceptData_passes
            { ap with sendAckTimer := some ⟨data.address2⟩, acks := ⟨data.address2⟩ :: ap.acks } data
          obtain ⟨frame, passage, passed, source, _⟩ := passes.passed
          exact ⟨ap', done, passes.address, Or.inr passes.acks, Or.inr ⟨frame, passage, passed, source⟩⟩
        · exact ⟨_, rfl, rfl, Or.inr rfl, Or.inl rfl⟩
  · exact ⟨_, rfl, rfl, Or.inl rfl, Or.inl rfl⟩

end WirelessAccessPoint

namespace WirelessLink

open WirelessEtherFrame

variable {l l' : WirelessLink} {frame : WirelessEtherFrame} {msg : Nat}

/-- What has to hold of a frame that reaches a receiver that waits to send no acknowledgement. At the station no
other copy of it has arrived, it does not carry the number that is stored with the retry flag, and its third
address is not that of the station. At the access point it carries the number that is stored with the retry flag
exactly if another copy of it has arrived. -/
def Condition (l : WirelessLink) : WirelessEvent → Prop
  | .down frame lost _ => lost = false → l.station.sendAckTimer = none →
      frame.address3 ≠ l.station.address ∧
        (∀ earlier ∈ l.downArrived, earlier.encapsulatedMsg ≠ frame.encapsulatedMsg) ∧
        ¬ (frame.retry = true ∧ l.station.associateAP.receivedSequence = frame.sequenceNumber.toNat)
  | .up frame lost => lost = false → l.ap.sendAckTimer = none →
      ((∃ earlier ∈ l.upArrived, earlier.encapsulatedMsg = frame.encapsulatedMsg) ↔
        frame.retry = true ∧
          (l.ap.findIfaceByMAC l.station.address).currentSequence = frame.sequenceNumber.toNat)
  | _ => True

theorem mem_messages {frames : List WirelessEtherFrame} (carries : frame.encapsulatedMsg = some msg) :
    msg ∈ messages frames ↔ ∃ earlier ∈ frames, earlier.encapsulatedMsg = frame.encapsulatedMsg := by
  simp [messages, List.mem_filterMap, carries]

theorem duplicate_downFilter : l.downFilter.Duplicate (frame.copy msg) ↔
    frame.retry = true ∧ l.station.associateAP.receivedSequence = frame.sequenceNumber.toNat := Iff.rfl

theorem duplicate_upFilter : l.upFilter.Duplicate (frame.copy msg) ↔
    frame.retry = true ∧ (l.ap.findIfaceByMAC l.station.address).currentSequence = frame.sequenceNumber.toNat :=
  Iff.rfl

/-- An event after which nothing more has arrived, been acknowledged or passed on upwards -/
structure UpQuiet (l l' : WirelessLink) : Prop where
  station : l'.station.address = l.station.address
  acks : l'.ap.acks = l.ap.acks
  passed : l'.ap.passed = l.ap.passed
  arrived : l'.upArrived = l.upArrived

structure DownQuiet (l l' : WirelessLink) : Prop where
  ap : l'.ap.address = l.ap.address
  acks : l'.station.acks = l.station.acks
  upper : l'.station.upper = l.station.upper
  arrived : l'.downArrived = l.downArrived

theorem UpQuiet.upAcknowledged (quiet : UpQuiet l l') (reliable : l.Reliable) :
    l'.ap.acks.count ⟨l'.station.address⟩ = l'.upArrived.length := by
  rw [quiet.acks, quiet.station, quiet.arrived]
  exact reliable.upAcknowledged

theorem UpQuiet.upOnce (quiet : UpQuiet l l') (reliable : l.Reliable) (m : Nat) :
    (messages l'.passedUp).count m = if m ∈ messages l'.upArrived then 1 else 0 := by
  rw [passedUp, quiet.passed, quiet.station, quiet.arrived]
  exact reliable.upOnce m

theorem DownQuiet.downAcknowledged (quiet : DownQuiet l l') (reliable : l.Reliable) :
    l'.station.acks.count ⟨l'.ap.address⟩ = l'.downArrived.length := by
  rw [quiet.acks, quiet.ap, quiet.arrived]
  exact reliable.downAcknowledged

theorem DownQuiet.downOnce (quiet : DownQuiet l l') (reliable : l.Reliable) (m : Nat) :
    l'.station.upper.count m = if m ∈ messages l'.downArrived then 1 else 0 := by
  rw [quiet.upper, quiet.arrived]
  exact reliable.downOnce m

theorem Reliable.quiet (reliable : l.Reliable) (down : DownQuiet l l') (up : UpQuiet l l') : l'.Reliable :=
  ⟨down.downAcknowledged reliable, down.downOnce reliable, up.upAcknowledged reliable, up.upOnce reliable⟩

theorem reliable_down {lost weak : Bool} (associated : l.Associated) (isDown : l.IsDown frame)
    (reliable : l.Reliable) (done : l.step (.down frame lost weak) = .ok l') :
    l'.Reliable ↔ l.Condition (.down frame lost weak) := by
  unfold step at done
  dsimp only at done
  by_cases dropped : lost = true ∨ l.station.sendAckTimer.isSome = true
  · rw [if_pos dropped] at done
    have down : DownQuiet l l' := by cases done; exact ⟨rfl, rfl, rfl, rfl⟩
    have up : UpQuiet l l' := by cases done; exact ⟨rfl, rfl, rfl, rfl⟩
    apply iff_of_true (reliable.quiet down up)
    intro here idle
    simp [here, idle] at dropped
  · rw [if_neg dropped] at done
    have here : lost = false := Bool.eq_false_iff.mpr fun gone => dropped (Or.inl gone)
    have idle : l.station.sendAckTimer = none := by
      cases timer : l.station.sendAckTimer with
      | none => rfl
      | some ack => simp [timer] at dropped
    obtain ⟨msg, carries⟩ := Option.isSome_iff_exists.mp isDown.message
    have condition : l.Condition (.down frame lost weak) ↔ frame.address3 ≠ l.station.address ∧
        msg ∉ messages l.downArrived ∧ ¬ l.downFilter.Duplicate (frame.copy msg) := by
      simp [Condition, here, idle, mem_messages carries, duplicate_downFilter]
    rw [condition]
    by_cases silent : l.station.address = frame.address3 ∨ l.downFilter.Duplicate (frame.copy msg)
    · -- The copy has arrived, and nothing is acknowledged.
      rw [WirelessStation.handleData_silent silent, ok_bind] at done
      cases done
      constructor
      · intro reliable'
        have after := reliable'.downAcknowledged
        have before := reliable.downAcknowledged
        simp only [List.length_cons] at after
        omega
      · rintro ⟨other, _, fresh⟩
        rcases silent with own | duplicate
        · exact absurd own.symm other
        · exact absurd duplicate fresh
    · rw [not_or] at silent
      have peer : l.station.associateAP.address = frame.address2 := associated.peer.trans isDown.transmitter.symm
      obtain ⟨station, delivered, address, acks, upper, _⟩ := WirelessStation.handleData_delivers weak
        isDown.receiver associated.unicast peer idle carries silent.1 silent.2
      rw [delivered, ok_bind] at done
      have up : UpQuiet l l' := by cases done; exact ⟨address, rfl, rfl, rfl⟩
      cases done
      have once := DuplicateFilter.once_receive (c := frame.copy msg) (f := l.downFilter) reliable.downOnce
      rw [DuplicateFilter.receive_fresh silent.2, DuplicateFilter.Judged, iff_false_left silent.2] at once
      have judged : (∀ m, station.upper.count m = if m ∈ messages (frame :: l.downArrived) then 1 else 0) ↔
          msg ∉ messages l.downArrived := by
        rw [upper, messages_cons carries]
        exact once
      have acknowledged : station.acks.count ⟨l.ap.address⟩ = (frame :: l.downArrived).length := by
        rw [acks, isDown.transmitter, List.count_cons_self, reliable.downAcknowledged, List.length_cons]
      constructor
      · intro reliable'
        exact ⟨fun own => silent.1 own.symm, judged.mp reliable'.downOnce, silent.2⟩
      · rintro ⟨_, first, _⟩
        exact ⟨acknowledged, judged.mpr first, up.upAcknowledged reliable, up.upOnce reliable⟩

theorem up_arrival (associated : l.Associated) (isUp : l.IsUp frame) (idle : l.ap.sendAckTimer = none)
    (carries : frame.encapsulatedMsg = some msg) :
    ∃ ap', l.ap.handleData frame = .ok ap' ∧ ap'.address = l.ap.address ∧
      ap'.acks = ⟨l.station.address⟩ :: l.ap.acks ∧
      ∀ l' : WirelessLink, l'.station.address = l.station.address → l'.ap = ap' → l'.upArrived = frame :: l.upArrived →
        l'.upFilter = l.upFilter.receive (frame.copy msg) := by
  have specified : frame.address2 ≠ MACAddress6.unspecified := isUp.transmitter ▸ associated.specified
  have mode : (l.ap.findIfaceByMAC frame.address2).receiveMode = .data := by
    rw [isUp.transmitter]
    exact associated.mode
  by_cases duplicate : l.upFilter.Duplicate (frame.copy msg)
  · have done := WirelessAccessPoint.handleData_duplicate idle isUp.receiver isUp.toDS specified mode
      (by rw [isUp.transmitter]; exact duplicate)
    refine ⟨_, done, rfl, by rw [isUp.transmitter], ?_⟩
    intro l' station ap arrived
    rw [DuplicateFilter.receive_duplicate duplicate, upFilter, passedUp, station, ap, arrived, messages_cons carries]
    rfl
  · obtain ⟨ap', done, passes⟩ := WirelessAccessPoint.handleData_fresh idle isUp.receiver isUp.toDS specified mode
      (by rw [isUp.transmitter]; exact duplicate)
    obtain ⟨sent, passage, passed, source, message⟩ := passes.passed
    refine ⟨ap', done, passes.address, by rw [passes.acks, isUp.transmitter], ?_⟩
    intro l' station ap arrived
    have stored := passes.stored
    rw [isUp.transmitter] at stored
    have own : (l'.ap.passed.map Prod.fst).filter (·.address3 = l.station.address) = sent :: l.passedUp := by
      rw [ap, passed, List.map_cons, List.filter_cons_of_pos (by simp [source, isUp.transmitter])]
      rfl
    rw [DuplicateFilter.receive_fresh duplicate, upFilter, passedUp, station, own, arrived, messages_cons carries,
      messages_cons (message.trans carries), ap, stored]
    rfl

theorem reliable_up {lost : Bool} (associated : l.Associated) (isUp : l.IsUp frame)
    (reliable : l.Reliable) (done : l.step (.up frame lost) = .ok l') :
    l'.Reliable ↔ l.Condition (.up frame lost) := by
  unfold step at done
  dsimp only at done
  by_cases dropped : lost = true ∨ l.ap.sendAckTimer.isSome = true
  · rw [if_pos dropped] at done
    have down : DownQuiet l l' := by cases done; exact ⟨rfl, rfl, rfl, rfl⟩
    have up : UpQuiet l l' := by cases done; exact ⟨rfl, rfl, rfl, rfl⟩
    apply iff_of_true (reliable.quiet down up)
    intro here idle
    simp [here, idle] at dropped
  · rw [if_neg dropped] at done
    have here : lost = false := Bool.eq_false_iff.mpr fun gone => dropped (Or.inl gone)
    have idle : l.ap.sendAckTimer = none := by
      cases timer : l.ap.sendAckTimer with
      | none => rfl
      | some ack => simp [timer] at dropped
    obtain ⟨msg, carries⟩ := Option.isSome_iff_exists.mp isUp.message
    have condition : l.Condition (.up frame lost) ↔ l.upFilter.Judged (frame.copy msg) := by
      unfold DuplicateFilter.Judged
      rw [iff_comm (a := l.upFilter.Duplicate (frame.copy msg)), duplicate_upFilter]
      simp only [Condition, here, idle, forall_const]
      rw [← mem_messages carries]
      rfl
    obtain ⟨ap', handled, address, acks, refines⟩ := up_arrival associated isUp idle carries
    rw [handled, ok_bind] at done
    have down : DownQuiet l l' := by cases done; exact ⟨address, rfl, rfl, rfl⟩
    have filter : l'.upFilter = l.upFilter.receive (frame.copy msg) := by cases done; exact refines _ rfl rfl rfl
    have acknowledged : l'.ap.acks.count ⟨l'.station.address⟩ = l'.upArrived.length := by
      cases done
      rw [acks, List.count_cons_self, reliable.upAcknowledged, List.length_cons]
    rw [condition, ← DuplicateFilter.once_receive (f := l.upFilter) reliable.upOnce, ← filter]
    constructor
    · exact fun reliable' => reliable'.upOnce
    · exact fun once => ⟨down.downAcknowledged reliable, down.downOnce reliable, acknowledged, once⟩

theorem reliable_sameOutputs {ap : WirelessAccessPoint} {station : WirelessStation}
    (same : WirelessAccessPoint.SameOutputs l.ap ap) (address : station.address = l.station.address)
    (acks : station.acks = l.station.acks) (upper : station.upper = l.station.upper) (reliable : l.Reliable) :
    ({ l with station, ap }).Reliable :=
  reliable.quiet ⟨same.address, acks, upper, rfl⟩ ⟨address, same.acks, same.passed, rfl⟩

theorem reliable_otherData (other : frame.address2 ≠ l.station.address) (reliable : l.Reliable)
    (done : l.step (.otherData frame) = .ok l') : l'.Reliable := by
  unfold step at done
  dsimp only at done
  by_cases busy : l.ap.sendAckTimer.isSome = true
  · rw [if_pos busy] at done
    cases done
    exact reliable
  · have idle : l.ap.sendAckTimer = none := Option.not_isSome_iff_eq_none.mp busy
    obtain ⟨ap', handled, address, acks, passed⟩ := WirelessAccessPoint.handleData_handles frame idle
    rw [if_neg busy, handled, ok_bind] at done
    have down : DownQuiet l l' := by cases done; exact ⟨address, rfl, rfl, rfl⟩
    cases done
    have count : ap'.acks.count ⟨l.station.address⟩ = l.ap.acks.count ⟨l.station.address⟩ := by
      rcases acks with same | added
      · rw [same]
      · rw [added, List.count_cons_of_ne (by simp [other])]
    have own : (ap'.passed.map Prod.fst).filter (·.address3 = l.station.address) = l.passedUp := by
      rcases passed with same | ⟨sent, passage, added, source⟩
      · rw [same]
        rfl
      · rw [added, List.map_cons, List.filter_cons_of_neg (by simp [source, other])]
        rfl
    refine ⟨down.downAcknowledged reliable, down.downOnce reliable, count.trans reliable.upAcknowledged, ?_⟩
    intro m
    rw [passedUp, own]
    exact reliable.upOnce m

theorem reliable_step {e : WirelessEvent} (reliable : l.Reliable) (admits : l.Admits e) (done : l.step e = .ok l') :
    l'.Reliable ↔ l.Condition e := by
  have same := WirelessAccessPoint.SameOutputs.refl l.ap
  cases e with
  | down frame lost weak => exact reliable_down admits.1 admits.2 reliable done
  | up frame lost => exact reliable_up admits.1 admits.2 reliable done
  | stationAck lost =>
      apply iff_of_true _ trivial
      unfold step at done
      dsimp only at done
      split at done
      · cases lost <;> cases done
        · exact reliable_sameOutputs (.handleAck _ _) rfl rfl rfl reliable
        · exact reliable_sameOutputs same rfl rfl rfl reliable
      · cases done
        exact reliable
  | apAck lost =>
      apply iff_of_true _ trivial
      unfold step at done
      dsimp only at done
      split at done
      · cases lost <;> cases done
        · exact reliable_sameOutputs ⟨rfl, rfl, rfl⟩ (by simp) (by simp) (by simp) reliable
        · exact reliable_sameOutputs ⟨rfl, rfl, rfl⟩ rfl rfl rfl reliable
      · cases done
        exact reliable
  | stationTimeout =>
      cases done
      exact iff_of_true (reliable_sameOutputs same rfl rfl rfl reliable) trivial
  | apTimeout discarded =>
      apply iff_of_true _ trivial
      unfold step at done
      dsimp only at done
      split at done
      · rename_i frame _
        cases discarded <;> cases done
        · exact reliable_sameOutputs ⟨rfl, rfl, rfl⟩ rfl rfl rfl reliable
        · have ready : l.ap.SameOutputs { l.ap with readyFrame := none } := ⟨rfl, rfl, rfl⟩
          have counted := ready.trans (.updateConsecutiveFailedCount _ frame)
          exact reliable_sameOutputs counted rfl rfl rfl reliable
      · cases done
        exact reliable
  | otherData frame => exact iff_of_true (reliable_otherData admits.2 reliable done) trivial
  | otherIface mac receiveMode sequenceNo =>
      cases done
      exact iff_of_true (reliable_sameOutputs (.addIface _ _ _ _) rfl rfl rfl reliable) trivial
  | otherLeaves mac =>
      cases done
      exact iff_of_true (reliable_sameOutputs (.remove _ _) rfl rfl rfl reliable) trivial
  | elapse d =>
      cases done
      exact iff_of_true (reliable_sameOutputs ⟨rfl, rfl, rfl⟩ rfl rfl rfl reliable) trivial

theorem Fresh.reliable (fresh : l.Fresh) : l.Reliable := by
  refine ⟨?_, ?_, ?_, ?_⟩
  · simp [fresh.acks, fresh.arrived]
  · simp [fresh.upper, fresh.arrived, messages]
  · simp [fresh.apAcks, fresh.arrived]
  · simp [passedUp, fresh.passed, fresh.arrived, messages]

instance (sent : List WirelessEtherFrame) (frame : WirelessEtherFrame) : Decidable (Continues sent frame) :=
  decidable_of_iff ((∀ earlier ∈ sent, earlier.encapsulatedMsg = frame.encapsulatedMsg →
      frame.sequenceNumber = earlier.sequenceNumber ∧ frame.retry = true) ∧
    ∀ last ∈ sent.head?, last.encapsulatedMsg ≠ frame.encapsulatedMsg → frame.sequenceNumber ≠ last.sequenceNumber)
    ⟨fun h => ⟨h.1, h.2⟩, fun h => ⟨h.1, h.2⟩⟩

instance (l : WirelessLink) : Decidable l.Associated :=
  decidable_of_iff (l.station.address ≠ MACAddress6.unspecified ∧ l.station.address ≠ MACAddress6.broadcast ∧
      l.station.associateAP.address = l.ap.address ∧ (l.ap.findIfaceByMAC l.station.address).receiveMode = .data)
    ⟨fun h => ⟨h.1, h.2.1, h.2.2.1, h.2.2.2⟩, fun h => ⟨h.1, h.2, h.3, h.4⟩⟩

instance (l : WirelessLink) (frame : WirelessEtherFrame) : Decidable (l.IsDown frame) :=
  decidable_of_iff (frame.subtype = .data ∧ (frame.toDS = false ∧ frame.fromDS = true) ∧
      frame.address1 = l.station.address ∧ frame.address2 = l.ap.address ∧ frame.encapsulatedMsg.isSome = true ∧
      Continues l.downSent frame)
    ⟨fun h => ⟨h.1, h.2.1, h.2.2.1, h.2.2.2.1, h.2.2.2.2.1, h.2.2.2.2.2⟩,
      fun h => ⟨h.1, h.2, h.3, h.4, h.5, h.6⟩⟩

instance (l : WirelessLink) (frame : WirelessEtherFrame) : Decidable (l.IsUp frame) :=
  decidable_of_iff (frame.subtype = .data ∧ (frame.toDS = true ∧ frame.fromDS = false) ∧
      frame.address1 = l.ap.address ∧ frame.address2 = l.station.address ∧ frame.encapsulatedMsg.isSome = true ∧
      Continues l.upSent frame)
    ⟨fun h => ⟨h.1, h.2.1, h.2.2.1, h.2.2.2.1, h.2.2.2.2.1, h.2.2.2.2.2⟩,
      fun h => ⟨h.1, h.2, h.3, h.4, h.5, h.6⟩⟩

instance : ∀ (l : WirelessLink) (e : WirelessEvent), Decidable (l.Admits e)
  | _, .down _ _ _ | _, .up _ _ => inferInstanceAs (Decidable (_ ∧ _))
  | _, .stationAck _ | _, .apAck _ | _, .stationTimeout | _, .apTimeout _ | _, .elapse _ =>
      inferInstanceAs (Decidable (_ ∧ True))
  | _, .otherData _ | _, .otherIface _ _ _ | _, .otherLeaves _ => inferInstanceAs (Decidable (_ ∧ _ ≠ _))

instance : ∀ (l : WirelessLink) (e : WirelessEvent), Decidable (l.Condition e)
  | _, .down _ _ _ => inferInstanceAs (Decidable (_ → _ → _ ∧ _ ∧ ¬ _))
  | _, .up _ _ => inferInstanceAs (Decidable (_ → _ → (_ ↔ _)))
  | _, .stationAck _ | _, .apAck _ | _, .stationTimeout | _, .apTimeout _ | _, .otherData _
  | _, .otherIface _ _ _ | _, .otherLeaves _ | _, .elapse _ => isTrue trivial

/-- A station in data mode, right after it has associated -/
def associatedLink : WirelessLink where
  station := ⟨2, ⟨1, true, 0⟩, none, none, [], []⟩
  ap := ⟨1, 7, [⟨2, .data, 0, 0, 300⟩], 0, 10, 60, 300, 3, none, none, [], [], []⟩
  downSent := []
  downArrived := []
  upSent := []
  upArrived := []

/-- A frame from the access point to the station, sent by a host behind the bridge -/
def downFrame (number : BitVec 16) (retry : Bool) (msg : Nat) : WirelessEtherFrame :=
  ⟨.data, false, true, retry, 2, 1, 9, number, AppType.bestEffort, some msg⟩

def upFrame (number : BitVec 16) (retry : Bool) (msg : Nat) : WirelessEtherFrame :=
  ⟨.data, true, false, retry, 1, 2, 9, number, AppType.bestEffort, some msg⟩

theorem associatedLink_fresh : associatedLink.Fresh := ⟨rfl, rfl, rfl, rfl, ⟨rfl, rfl⟩, ⟨rfl, rfl⟩⟩

/-- While the station is associated, every copy that reaches a receiver is acknowledged and every frame passed on
once in each state of a run exactly if no copy breaks the condition. -/
theorem reliable_exactly {es : List WirelessEvent} (runs : Runs step Admits l es l') (fresh : l.Fresh) :
    (∀ front back m, es = front ++ back → Runs step Admits l front m → m.Reliable) ↔
      Runs step (fun l e => l.Admits e ∧ l.Condition e) l es l' := by
  have kept (s : WirelessLink) (e : WirelessEvent) (s' : WirelessLink) (_ : True) (_ : s.Admits e)
      (_ : s.step e = .ok s') : True := trivial
  apply Runs.always_iff kept _ runs trivial fresh.reliable
  intro s e s' _ reliable admits done
  exact reliable_step reliable admits done

/-- The frame reaches the access point, and its acknowledgement is lost. -/
def apAckLost : List WirelessEvent :=
  [.up (upFrame 8 false 1) false, .apAck true, .stationTimeout, .up (upFrame 8 true 1) false, .apAck false,
    .up (upFrame 9 false 2) false]

theorem reliable_exactly_apAckLost : ∃ l', Runs step Admits associatedLink apAckLost l' ∧
    l'.Reliable ∧ l'.ap.acks.length = 3 ∧ l'.ap.passed.length = 2 := by
  have checked : (run (fun l e => Exec.assert (Admits l e ∧ Condition l e) >>= fun _ => step l e) associatedLink
      apAckLost).map (fun l => decide (l.ap.acks.length = 3 ∧ l.ap.passed.length = 2)) = .ok true := by
    decide +kernel
  obtain ⟨l', runs, holds⟩ := map_eq_ok checked
  have meets : Runs step (fun l e => Admits l e ∧ Condition l e) associatedLink apAckLost l' := Runs.of_checked runs
  have admitted : Runs step Admits associatedLink apAckLost l' := Runs.mono (fun _ _ both => both.1) meets
  exact ⟨l', admitted, (reliable_exactly admitted associatedLink_fresh).mpr meets apAckLost [] l' rfl admitted,
    of_decide_eq_true holds⟩

def ackLost : List WirelessEvent :=
  [.down (downFrame 8 false 1) false false, .stationAck true, .apTimeout false, .down (downFrame 8 true 1) false false]

theorem ackLost_runs : ∃ l', Runs step Admits associatedLink ackLost l' ∧
    l'.station.acks.length = 1 ∧ l'.downArrived.length = 2 ∧ l'.station.sendAckTimer = none := by
  have checked : (run (fun l e => Exec.assert (Admits l e) >>= fun _ => step l e) associatedLink ackLost).map
      (fun l => decide (l.station.acks.length = 1 ∧ l.downArrived.length = 2 ∧ l.station.sendAckTimer = none)) =
        .ok true := by decide +kernel
  obtain ⟨l', runs, holds⟩ := map_eq_ok checked
  exact ⟨l', Runs.of_checked runs, of_decide_eq_true holds⟩

/-- The station keeps silent on the second copy of a frame whose acknowledgement was lost. -/
theorem not_always_reliable : ¬ ∀ (l l' : WirelessLink) (es : List WirelessEvent), l.Fresh →
    Runs step Admits l es l' → l'.Reliable := by
  intro claim
  obtain ⟨l', runs, acks, arrived, _⟩ := ackLost_runs
  have acknowledged := (claim _ _ _ associatedLink_fresh runs).downAcknowledged
  have bound := List.count_le_length (a := (⟨l'.ap.address⟩ : AckFrame)) (l := l'.station.acks)
  omega

-- The first copy is lost, and the number is the one that the access point stores at the association.
example : (run step associatedLink [.up (upFrame 0 false 1) true, .stationTimeout, .up (upFrame 0 true 1) false]).map
    (fun l => (l.ap.acks.length, l.ap.passed.length)) = .ok (1, 0) := by decide +kernel

end WirelessLink

end IPv6Suite
