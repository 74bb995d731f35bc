import IPv6Suite.MIPv6MStateCorrespondentNode

namespace IPv6Suite

open Lib MIPv6MobilityState

/-- What an accepted Binding Update leaves in a binding cache. The care-of address is stored if the
datagram comes from it, or if the entry is one that an early Binding Update left (`ebu`). -/
structure Recorded (bc bc' : BindingCache) (dgram : MobilityDatagram BU) (ebu : Prop) : Prop where
  removed : dgram.Deregisters → bc'.findBinding (hoa dgram) = none
  stored : ¬ dgram.Deregisters → ∃ bce, bc'.findBinding (hoa dgram) = some bce ∧
    bce.expires = dgram.encapsulatedMsg.expires.toNat ∧
    bce.seqNo = dgram.encapsulatedMsg.sequence.setWidth 32 ∧
    (coa dgram = dgram.srcAddress ∨ ebu → bce.careOfAddr = coa dgram)
  others : ∀ other, other ≠ hoa dgram → bc'.findBinding other = bc.findBinding other

/-- An accepted Binding Update is recorded, and a rejected one changes nothing. -/
def Outcome (bc : BindingCache) (dgram : MobilityDatagram BU) (ebu : Prop) (accepted : Bool)
    (bc' : BindingCache) : Prop :=
  (accepted = true → Recorded bc bc' dgram ebu) ∧ (accepted = false → bc' = bc)

variable {bc bc' : BindingCache} {dgram : MobilityDatagram BU} {ebu : Prop} {removed : Bool}
  {home other : Ipv6Addr}

theorem Outcome.rejected : Outcome bc dgram ebu false bc :=
  ⟨fun accepted => (Bool.false_ne_true accepted).elim, fun _ => rfl⟩

theorem Outcome.accepted (recorded : Recorded bc bc' dgram ebu) : Outcome bc dgram ebu true bc' :=
  ⟨fun _ => recorded, fun rejected => (Bool.false_ne_true rejected.symm).elim⟩

theorem Recorded.registerBCE (registers : ¬ dgram.Deregisters)
    (early : ebu → coa dgram = dgram.srcAddress) :
    Recorded bc (registerBCE bc dgram.encapsulatedMsg (hoa dgram) dgram) dgram ebu where
  removed deregisters := absurd deregisters registers
  stored _ := by
    refine ⟨_, findBinding_registerBCE.trans (if_pos rfl), rfl, rfl, ?_⟩
    rintro (same | ebu)
    · exact same.symm
    · exact (early ebu).symm
  others other differs := findBinding_registerBCE.trans (if_neg fun same => differs same.symm)

theorem Outcome.deregisterBCE (deregisters : dgram.Deregisters)
    (dereg : deregisterBCE bc (hoa dgram) = (removed, bc')) : Outcome bc dgram ebu removed bc' := by
  unfold MIPv6MobilityState.deregisterBCE BindingCache.removeBinding at dereg
  split at dereg
  · cases dereg
    refine .accepted ⟨fun _ => ?_, fun registers => absurd deregisters registers, ?_⟩
    · exact BindingCache.findBinding_erase_self
    · exact fun other differs => BindingCache.findBinding_erase_ne fun same => differs same.symm
  · cases dereg
    exact .rejected

namespace CorrespondentNode

variable {cn : CorrespondentNode} {accepted tentativeBinding : Bool} {reply : Option MobilityReply}

/-- The entry that early binding updates write to: it is there already, and both nonces are valid. -/
def Early (cn : CorrespondentNode) (dgram : MobilityDatagram BU) : Prop :=
  cn.earlyBindingUpdate = true ∧ cn.bc.findBinding (hoa dgram) ≠ none ∧
    ∀ ni, dgram.encapsulatedMsg.ni = some ni → checkNonces ni.coni cn.nonces = true

theorem register_recorded (registers : ¬ dgram.Deregisters)
    (tentative : cn.Early dgram → tentativeBinding = false) :
    Recorded cn.bc (cn.register dgram tentativeBinding) dgram (cn.Early dgram) := by
  unfold register
  dsimp only
  split
  · rename_i bce found
    split
    · rw [setSeqNo_short]
      refine ⟨fun deregisters => absurd deregisters registers, fun _ => ?_, ?_⟩
      · exact ⟨_, BindingCache.findBinding_insert.trans (if_pos rfl), rfl, rfl, fun _ => rfl⟩
      · exact fun other differs =>
          BindingCache.findBinding_insert.trans (if_neg fun same => differs same.symm)
    · rename_i late
      refine .registerBCE registers ?_
      intro early
      refine absurd ⟨early.1, ?_⟩ late
      rw [tentative early]
      exact Bool.false_ne_true
  · rename_i absent
    exact .registerBCE registers fun early => absurd absent early.2.1

theorem processBU_outcome (processes : cn.processBU dgram = .ok (accepted, reply, bc')) :
    Outcome cn.bc dgram (cn.Early dgram) accepted bc' := by
  unfold processBU at processes
  obtain ⟨⟨valid, early⟩, -, rest⟩ := bind_eq_ok.mp processes
  dsimp only at rest
  split at rest
  · cases rest
    exact .rejected
  split at rest
  · cases rest
    exact .rejected
  obtain ⟨ni, option, rest⟩ := bind_eq_ok.mp rest
  rw [deref_eq_ok] at option
  split at rest
  · rename_i deregisters
    split at rest
    · cases rest
      exact .rejected
    · cases dereg : deregisterBCE cn.bc (hoa dgram) with
      | mk removed bc =>
          rw [dereg] at rest
          cases rest
          exact .deregisterBCE deregisters dereg
  rename_i registers
  split at rest
  · cases rest
    exact .rejected
  split at rest
  · cases rest
    exact .rejected
  split at rest
  · cases rest
    exact .rejected
  obtain ⟨_, -, rest⟩ := bind_eq_ok.mp rest
  cases rest
  refine .accepted (register_recorded registers ?_)
  intro early
  rw [early.2.2 ni option]
  rfl

end CorrespondentNode

namespace HomeAgent

variable {ha ha' : HomeAgent} {localDeliver : Ipv6Addr → Bool} {accepted : Bool}
  {reply : Option BADatagram}

theorem registerBCE_bc {bu : BU} (registers : ha.registerBCE localDeliver bu home dgram = .ok ha') :
    ha'.bc = MIPv6MobilityState.registerBCE ha.bc bu home dgram := by
  unfold registerBCE at registers
  obtain ⟨bce, -, rest⟩ := bind_eq_ok.mp registers
  obtain ⟨_, -, rest⟩ := bind_eq_ok.mp rest
  obtain ⟨found, -, rest⟩ := bind_eq_ok.mp rest
  obtain ⟨⟨vifIndex, created⟩, -, rest⟩ := bind_eq_ok.mp rest
  obtain ⟨⟨destroyed, tunMod⟩, -, rest⟩ := bind_eq_ok.mp rest
  cases rest
  rfl

theorem deregisterBCE_bc (deregisters : ha.deregisterBCE home = .ok (removed, ha')) :
    MIPv6MobilityState.deregisterBCE ha.bc home = (removed, ha'.bc) := by
  unfold deregisterBCE at deregisters
  split at deregisters
  · rename_i absent
    cases deregisters
    unfold MIPv6MobilityState.deregisterBCE BindingCache.removeBinding
    rw [absent]
  · obtain ⟨ne, -, rest⟩ := bind_eq_ok.mp deregisters
    obtain ⟨_, -, rest⟩ := bind_eq_ok.mp rest
    cases rest
    rfl

/-- A Binding Update for which a binding is written or removed -/
def Handled (ha : HomeAgent) (dgram : MobilityDatagram BU) : Prop :=
  Valid ha.bc dgram ∧
    (ha.tunMod.cds.lookupAddress (hoa dgram) ≠ none ∨ dgram.encapsulatedMsg.mapreg = true)

theorem processBU_cases (processes : ha.processBU localDeliver dgram = .ok (accepted, reply, ha')) :
    (accepted = false ∧ ha' = ha) ∨
      ha.Handled dgram ∧ (dgram.Deregisters ∧ ha.deregisterBCE (hoa dgram) = .ok (accepted, ha') ∨
        ¬ dgram.Deregisters ∧ accepted = true ∧
          ha.registerBCE localDeliver dgram.encapsulatedMsg (hoa dgram) dgram = .ok ha') := by
  unfold processBU at processes
  obtain ⟨⟨valid, early⟩, checks, rest⟩ := bind_eq_ok.mp processes
  dsimp only at rest
  split at rest
  · cases rest
    exact .inl ⟨rfl, rfl⟩
  rename_i notInvalid
  have passes : Valid ha.bc dgram := by
    rcases preprocessBU_cases checks with ⟨-, -, passes⟩ | ⟨invalid, -⟩
    · exact passes
    · rw [invalid] at notInvalid
      exact absurd Bool.false_ne_true notInvalid
  obtain ⟨_, -, rest⟩ := bind_eq_ok.mp rest
  split at rest
  · cases rest
    exact .inl ⟨rfl, rfl⟩
  rename_i onLink
  have handled : ha.Handled dgram := by
    refine ⟨passes, ?_⟩
    by_contra neither
    obtain ⟨absent, notMap⟩ := not_or.mp neither
    exact onLink ⟨not_not.mp absent, notMap⟩
  split at rest
  · rename_i deregisters
    obtain ⟨⟨removed, after⟩, dereg, rest⟩ := bind_eq_ok.mp rest
    cases rest
    exact .inr ⟨handled, .inl ⟨deregisters, dereg⟩⟩
  · rename_i registers
    obtain ⟨after, registered, rest⟩ := bind_eq_ok.mp rest
    cases rest
    exact .inr ⟨handled, .inr ⟨registers, rfl, registered⟩⟩

theorem processBU_outcome (processes : ha.processBU localDeliver dgram = .ok (accepted, reply, ha')) :
    Outcome ha.bc dgram False accepted ha'.bc := by
  rcases processBU_cases processes with ⟨rfl, rfl⟩ |
    ⟨-, ⟨deregisters, dereg⟩ | ⟨registers, rfl, registered⟩⟩
  · exact .rejected
  · exact .deregisterBCE deregisters (deregisterBCE_bc dereg)
  · refine .accepted ?_
    rw [registerBCE_bc registered]
    exact .registerBCE registers False.elim

end HomeAgent

/-- What a correspondent node and a home agent do to their binding caches with a Binding Update. -/
theorem binding_registration :
    (∀ (cn : CorrespondentNode) dgram accepted reply bc',
      cn.processBU dgram = .ok (accepted, reply, bc') →
        Outcome cn.bc dgram (cn.Early dgram) accepted bc') ∧
    ∀ (ha : HomeAgent) localDeliver dgram accepted reply ha',
      ha.processBU localDeliver dgram = .ok (accepted, reply, ha') →
        Outcome ha.bc dgram False accepted ha'.bc :=
  ⟨fun _ _ _ _ _ => CorrespondentNode.processBU_outcome,
    fun _ _ _ _ _ _ => HomeAgent.processBU_outcome⟩

/-- A correspondent node registers a first binding. -/
theorem binding_registration_example :
    ∃ (cn : CorrespondentNode) (dgram : MobilityDatagram BU) (reply : Option MobilityReply)
      (bc' : BindingCache) (bce : BcEntry), cn.processBU dgram = .ok (true, reply, bc') ∧
      bc'.findBinding ⟨0x20000000, 0, 0, 2⟩ = some bce ∧
      bce.careOfAddr = ⟨0x20000000, 0, 1, 2⟩ ∧ bce.expires = 100 := by
  obtain ⟨cn, dgram, reply, bc', processes, home, care, source, expires, registers⟩ :
      ∃ (cn : CorrespondentNode) (dgram : MobilityDatagram BU) (reply : Option MobilityReply)
        (bc' : BindingCache), cn.processBU dgram = .ok (true, reply, bc') ∧
        hoa dgram = ⟨0x20000000, 0, 0, 2⟩ ∧ coa dgram = ⟨0x20000000, 0, 1, 2⟩ ∧
        dgram.srcAddress = ⟨0x20000000, 0, 1, 2⟩ ∧ dgram.encapsulatedMsg.expires = 100 ∧
        ¬ dgram.Deregisters :=
    ⟨⟨∅, fun _ => 7, false⟩, ⟨⟨0x20000000, 0, 1, 2⟩, ⟨0x20000000, 0, 0, 9⟩,
        some ⟨0x20000000, 0, 0, 2⟩, -1, 1,
        ⟨true, false, true, false, 5, 100, some ⟨7, 7⟩, none, true⟩⟩,
      _, _, rfl, rfl, rfl, rfl, rfl, by decide⟩
  have recorded := (binding_registration.1 cn dgram true reply bc' processes).1 rfl
  obtain ⟨bce, found, lifetime, -, address⟩ := recorded.stored registers
  refine ⟨cn, dgram, reply, bc', bce, processes, home ▸ found, ?_, ?_⟩
  · rw [address (Or.inl (care.trans source.symm)), care]
  · rw [lifetime, expires]
    rfl

/-- A Binding Update that is accepted because it removes the binding -/
theorem deregistration_accepted :
    ∃ (cn : CorrespondentNode) (dgram : MobilityDatagram BU) (bce : BcEntry) (bc' : BindingCache),
      cn.bc.findBinding (hoa dgram) = some bce ∧ cn.processBU dgram = .ok (true, none, bc') ∧
      coa dgram = ⟨0x20000000, 0, 1, 2⟩ ∧ bc'.findBinding (hoa dgram) = none :=
  ⟨⟨Std.TreeMap.insert ∅ ⟨0x20000000, 0, 0, 2⟩
        ⟨⟨0x20000000, 0, 0, 2⟩, ⟨0x20000000, 0, 1, 2⟩, 100, 5, false⟩, fun _ => 7, false⟩,
    ⟨⟨0x20000000, 0, 1, 2⟩, ⟨0x20000000, 0, 0, 9⟩, some ⟨0x20000000, 0, 0, 2⟩, -1, 1,
      ⟨true, false, true, false, 6, 0, some ⟨7, 7⟩, none, true⟩⟩,
    _, _, rfl, rfl, rfl, rfl⟩

end IPv6Suite
