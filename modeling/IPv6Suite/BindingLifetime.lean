import IPv6Suite.MIPv6MStateMobileNode

namespace IPv6Suite

open Lib

/-- The seconds that an acknowledgement takes off an entry, unless it is ignored. -/
def BuEntry.taken (bue : BuEntry) (ba : BA) : Nat :=
  if ba.status = .accepted ∧ ba.sequence.setWidth 32 = bue.sequence then
    bue.lifetime.toNat - ba.lifetime.toNat
  else 0

namespace MobileNode

def taken (mn : MobileNode) (dest : Ipv6Addr) : MobileNodeEvent → Nat
  | .processBA ba srcAddress =>
      if srcAddress = dest then ((mn.findBU dest).map fun bue => bue.taken ba).getD 0 else 0
  | _ => 0

/-- No Binding Update is sent from the entry for `dest`. -/
def Unsent (mn : MobileNode) (dest : Ipv6Addr) : MobileNodeEvent → Prop
  | .sendBU other .. => mn.bulAddr other ≠ dest
  | _ => True

variable {mn mn' : MobileNode} {dest other : Ipv6Addr} {bue bue' : BuEntry} {ba : BA}
  {e : MobileNodeEvent}

theorem findBU_modifyBU {f : BuEntry → BuEntry} (found : (mn.modifyBU other f).findBU dest = some bue')
    (keeps : ∀ bue : BuEntry, bue.addr = other → (f bue).addr = other) : ∃ bue, mn.findBU dest = some bue ∧
      (other ≠ dest ∧ bue' = bue ∨ other = dest ∧ bue' = f bue) := by
  change BindingUpdateList.findBU (BindingUpdateList.modifyBU other f mn.bul) dest = _ at found
  rw [BindingUpdateList.findBU_modifyBU keeps] at found
  split at found
  · rename_i same
    subst same
    obtain ⟨bue, before, rfl⟩ := Option.map_eq_some_iff.mp found
    exact ⟨bue, before, Or.inr ⟨rfl, rfl⟩⟩
  · rename_i differs
    exact ⟨bue', found, Or.inl ⟨differs, rfl⟩⟩

/-- What is left of an entry when `ticks` and `taken` seconds have been subtracted. -/
structure Less (bue bue' : BuEntry) (ticks taken : Nat) : Prop where
  lifetime : bue'.lifetime = bue.lifetime
  expires : bue'.expires.toNat = bue.expires.toNat - (ticks + taken)
  left : ticks = 0 ∨ ticks < bue.expires.toNat

theorem Less.refl : Less bue bue 0 0 := ⟨rfl, rfl, Or.inl rfl⟩

theorem Less.of_same (lifetime : bue'.lifetime = bue.lifetime) (expires : bue'.expires = bue.expires) :
    Less bue bue' 0 0 := ⟨lifetime, congrArg BitVec.toNat expires, Or.inl rfl⟩

theorem Less.trans {bue'' : BuEntry} {ticks taken ticks' taken' : Nat}
    (first : Less bue bue' ticks taken) (second : Less bue' bue'' ticks' taken') :
    Less bue bue'' (ticks + ticks') (taken + taken') where
  lifetime := second.lifetime.trans first.lifetime
  expires := by
    rw [second.expires, first.expires]
    omega
  left := by
    have before := first.left
    have after := second.left
    rw [first.expires] at after
    omega

theorem Less.expire (kept : BindingUpdateList.expire mipv6Period bue = some bue') : Less bue bue' 1 0 := by
  unfold BindingUpdateList.expire at kept
  split at kept
  · rename_i longer
    cases kept
    have bound := bue.expires.isLt
    have more : 1 < bue.expires.toNat := by
      have above := BitVec.lt_def.mp longer
      rwa [BitVec.toNat_setWidth_of_le (by decide)] at above
    refine ⟨rfl, ?_, Or.inr more⟩
    change ((bue.expires.setWidth 32 - 1#32).setWidth 16).toNat = _
    simp only [BitVec.toNat_setWidth, BitVec.toNat_sub, BitVec.toNat_ofNat]
    omega
  · cases kept

theorem setExpires_sub {e l g : BitVec 16} (less : g < l) :
    ((BitVec.ofInt 32 (max (e.toNat - (l.toNat - g.toNat : Int)) 0)).setWidth 16).toNat =
      e.toNat - (l.toNat - g.toNat) := by
  have bound := e.isLt
  have below : g.toNat < l.toNat := less
  have clamped : max ((e.toNat : Int) - (l.toNat - g.toNat : Int)) 0 =
      ((e.toNat - (l.toNat - g.toNat) : Nat) : Int) := by
    omega
  rw [clamped, BitVec.ofInt_natCast, BitVec.toNat_setWidth, BitVec.toNat_ofNat]
  omega

/-- The difference is taken from what is left, and the lifetime that it is relative to stays. -/
theorem Less.acknowledged (latest : ba.sequence.setWidth 32 = bue.sequence)
    (updated : acknowledged bue ba = some bue') : Less bue bue' 0 (bue.taken ba) := by
  unfold MobileNode.acknowledged at updated
  unfold BuEntry.taken
  split at updated
  · rename_i accepted
    rw [if_pos ⟨accepted, latest⟩]
    dsimp only at updated
    split at updated
    · rename_i less
      cases updated
      refine ⟨rfl, ?_, Or.inl rfl⟩
      rw [Nat.zero_add]
      exact setExpires_sub less
    · rename_i notLess
      cases updated
      refine ⟨rfl, ?_, Or.inl rfl⟩
      have granted : bue.lifetime.toNat ≤ ba.lifetime.toNat := Nat.le_of_not_lt notLess
      change bue.expires.toNat = _
      omega
  · rename_i rejected
    have none : ¬ (ba.status = .accepted ∧ ba.sequence.setWidth 32 = bue.sequence) := by
      rintro ⟨accepted, -⟩
      rw [rejected] at accepted
      cases accepted
    rw [if_neg none]
    split at updated <;> · cases updated; exact .of_same rfl rfl
  · cases updated

theorem taken_other {ba : BA} (differs : other ≠ dest) : mn.taken dest (.processBA ba other) = 0 :=
  if_neg differs

theorem taken_found (before : mn.findBU dest = some bue) : mn.taken dest (.processBA ba dest) = bue.taken ba := by
  change (if dest = dest then _ else _) = _
  rw [if_pos rfl, before]
  rfl

theorem processBA_less {accepted : Bool} (distinct : mn.bul.Distinct)
    (acknowledges : mn.processBA ba other = .ok (accepted, mn')) (found : mn'.findBU dest = some bue') :
    ∃ bue, mn.findBU dest = some bue ∧ Less bue bue' 0 (mn.taken dest (.processBA ba other)) := by
  rcases processBA_cases acknowledges with ⟨bue, before, ignored, -, rfl⟩ | ⟨stopped, stops, -, rest⟩
  · refine ⟨bue', found, ?_⟩
    by_cases same : other = dest
    · subst same
      rw [taken_found found]
      rw [found] at before
      cases before
      rw [BuEntry.taken, if_neg fun latest => ignored latest.2]
      exact .refl
    · rw [taken_other same]
      exact .refl
  · have lists : ∀ addr, stopped.findBU addr = mn.findBU addr := fun addr =>
      congrArg (BindingUpdateList.findBU · addr) (stopTmr_ok stops).1
    obtain ⟨absent, rfl⟩ | ⟨bue, before, latest, ⟨bu, updated, rfl⟩ | ⟨-, rfl⟩⟩ := rest
    · rw [lists] at found
      refine ⟨bue', found, ?_⟩
      have differs : other ≠ dest := by
        rintro rfl
        rw [absent] at found
        cases found
      rw [taken_other differs]
      exact .refl
    · have keeps : bu.addr = other :=
        (acknowledged_addr updated).trans (BindingUpdateList.findBU_addr before)
      obtain ⟨entry, left, ⟨differs, rfl⟩ | ⟨rfl, rfl⟩⟩ := findBU_modifyBU found fun _ _ => keeps
      · rw [lists] at left
        rw [taken_other differs]
        exact ⟨_, left, .refl⟩
      · rw [taken_found before]
        exact ⟨bue, before, .acknowledged latest updated⟩
    · change BindingUpdateList.findBU (BindingUpdateList.removeBU stopped.bul other) dest = _ at found
      rw [(stopTmr_ok stops).1, distinct.findBU_removeBU] at found
      split at found
      · cases found
      · rename_i differs
        rw [taken_other differs]
        exact ⟨bue', found, .refl⟩

theorem processBA_accepts {accepted : Bool} (before : mn.findBU dest = some bue)
    (status : ba.status = .accepted) (latest : ba.sequence.setWidth 32 = bue.sequence)
    (acknowledges : mn.processBA ba dest = .ok (accepted, mn')) : ∃ bue', mn'.findBU dest = some bue' ∧
      Less bue bue' 0 (bue.lifetime.toNat - ba.lifetime.toNat) := by
  have taken : bue.taken ba = bue.lifetime.toNat - ba.lifetime.toNat := if_pos ⟨status, latest⟩
  rcases processBA_cases acknowledges with ⟨bu, found, ignored, -⟩ | ⟨stopped, stops, -, rest⟩
  · rw [before] at found
    cases found
    exact absurd latest ignored
  · rw [before] at rest
    obtain ⟨absent, -⟩ | ⟨bu, found, -, ⟨bue', updated, rfl⟩ | ⟨removed, -⟩⟩ := rest
    · cases absent
    · cases found
      have keeps : bue'.addr = dest :=
        (acknowledged_addr updated).trans (BindingUpdateList.findBU_addr before)
      refine ⟨bue', ?_, taken ▸ Less.acknowledged latest updated⟩
      change BindingUpdateList.findBU (BindingUpdateList.modifyBU dest _ stopped.bul) dest = _
      rw [BindingUpdateList.findBU_modifyBU_same fun _ _ => keeps, (stopTmr_ok stops).1]
      change (mn.findBU dest).map _ = _
      rw [before, Option.map_some]
    · unfold acknowledged at removed
      rw [status] at removed
      dsimp only at removed
      split at removed <;> cases removed

def ticks : MobileNodeEvent → Nat
  | .expireLifetimes => 1
  | _ => 0

theorem step_less (distinct : mn.bul.Distinct) (unsent : mn.Unsent dest e)
    (steps : mn.step e = .ok mn') (found : mn'.findBU dest = some bue') :
    ∃ bue, mn.findBU dest = some bue ∧ Less bue bue' (ticks e) (mn.taken dest e) := by
  cases e with
  | wait now =>
      cases steps
      exact ⟨bue', found, .refl⟩
  | bindings bc =>
      cases steps
      exact ⟨bue', found, .refl⟩
  | routability other homeNI careOfNI hoti coti =>
      cases steps
      obtain ⟨bue, before, ⟨-, rfl⟩ | ⟨-, rfl⟩⟩ := findBU_modifyBU found fun _ same => same
      · exact ⟨_, before, .refl⟩
      · exact ⟨bue, before, .of_same rfl rfl⟩
  | sendBU other coa hoa lifetime homeReg mapReg timestamp =>
      obtain ⟨sent, sends⟩ := snd_map_eq_ok steps
      rcases sendBU_cases sends with ⟨-, rfl⟩ | ⟨dgram, old, new, -, sending⟩
      · exact ⟨bue', found, .refl⟩
      · have differs : new.addr ≠ dest := by
          rw [sending.addr]
          exact unsent
        rw [sending.written.findBU, if_neg differs] at found
        exact ⟨bue', found, .refl⟩
  | retransmitBU i =>
      obtain ⟨sent, fires⟩ := snd_map_eq_ok steps
      obtain ⟨tmr, -, ⟨-, -, rfl⟩ | ⟨bule, dgram, timeout, scheduled, -, resent, -, -, rfl⟩ | ⟨-, -, rfl⟩⟩ :=
        retransmitBU_cases fires
      · exact ⟨bue', found, .refl⟩
      · have keeps : (bule.resend mn.now).addr = tmr.dgram.destAddress :=
          resend_addr resent
        obtain ⟨bue, before, ⟨-, rfl⟩ | ⟨same, rfl⟩⟩ := findBU_modifyBU found fun _ _ => keeps
        · exact ⟨_, before, .refl⟩
        · rw [← same, resent] at before
          cases before
          exact ⟨bule, same ▸ resent, .of_same rfl rfl⟩
      · obtain ⟨bue, before, ⟨-, rfl⟩ | ⟨-, rfl⟩⟩ := findBU_modifyBU found fun _ same => same
        · exact ⟨_, before, .refl⟩
        · exact ⟨bue, before, .of_same rfl rfl⟩
  | processBA ba srcAddress =>
      obtain ⟨accepted, acknowledges⟩ := snd_map_eq_ok steps
      exact processBA_less distinct acknowledges found
  | processBE srcAddress =>
      cases steps
      change BindingUpdateList.findBU (BindingUpdateList.removeBU mn.bul srcAddress) dest = _ at found
      rw [distinct.findBU_removeBU] at found
      split at found
      · cases found
      · exact ⟨bue', found, .refl⟩
  | expireLifetimes =>
      cases steps
      change BindingUpdateList.findBU (mn.bul.expireLifetimes mipv6Period) dest = _ at found
      rw [distinct.findBU_expireLifetimes] at found
      obtain ⟨bue, before, kept⟩ := Option.bind_eq_some_iff.mp found
      exact ⟨bue, before, .expire kept⟩

end MobileNode

/-- A mobile node with the ticks since its entry for an address was at hand, and with the seconds
that acknowledgements took off that entry. -/
structure Granted where
  node : MobileNode
  ticks : Nat
  taken : Nat

namespace Granted

def step (dest : Ipv6Addr) (s : Granted) (e : MobileNodeEvent) : Exec Granted := do
  let node ← s.node.step e
  return ⟨node, s.ticks + MobileNode.ticks e, s.taken + s.node.taken dest e⟩

def Unsent (dest : Ipv6Addr) (s : Granted) (e : MobileNodeEvent) : Prop := s.node.Unsent dest e

variable {mn mn' : MobileNode} {dest : Ipv6Addr} {bue bue' : BuEntry} {es : List MobileNodeEvent}
  {s t : Granted}

/-- The entry that is there now was there all the time, with so many seconds more. -/
structure Counts (mn : MobileNode) (dest : Ipv6Addr) (s : Granted) : Prop where
  distinct : s.node.bul.Distinct
  entry : ∀ bue', s.node.findBU dest = some bue' →
    ∃ bue, mn.findBU dest = some bue ∧ MobileNode.Less bue bue' s.ticks s.taken

theorem Counts.step {e : MobileNodeEvent} (counts : Counts mn dest s) (unsent : s.Unsent dest e)
    (steps : Granted.step dest s e = .ok t) : Counts mn dest t := by
  obtain ⟨node, stepped, rest⟩ := bind_eq_ok.mp steps
  cases rest
  refine ⟨MobileNode.distinct_step counts.distinct stepped, ?_⟩
  intro bue'' found
  obtain ⟨bue', before, less⟩ := MobileNode.step_less counts.distinct unsent stepped found
  obtain ⟨bue, start, less_start⟩ := counts.entry bue' before
  exact ⟨bue, start, less_start.trans less⟩

theorem Counts.run (distinct : mn.bul.Distinct)
    (runs : Runs (Granted.step dest) (Unsent dest) ⟨mn, 0, 0⟩ es t) : Counts mn dest t :=
  runs.invariant (Counts mn dest) (fun _ _ _ => Counts.step)
    ⟨distinct, fun bue found => ⟨bue, found, .refl⟩⟩

end Granted

/-- After an accepted acknowledgement an entry is left with what was granted if no acknowledgement
took anything off before, and it is removed with the tick at which what it is left with runs out. -/
theorem binding_lifetime {mn mn₁ mn₂ : MobileNode} {dest coa hoa : Ipv6Addr} {lifetime : Nat}
    {homeReg mapReg accepted : Bool} {timestamp : ℚ} {dgram : MobilityDatagram BU} {bue : BuEntry}
    {es : List MobileNodeEvent} {s : Granted} {ba : BA} (reachable : mn.Reachable)
    (sends : mn.sendBU dest coa hoa lifetime homeReg mapReg timestamp = .ok (some dgram, mn₁))
    (runs : Runs (Granted.step (mn.bulAddr dest)) (Granted.Unsent (mn.bulAddr dest))
      ⟨mn₁, 0, 0⟩ es s)
    (entry : s.node.findBU (mn.bulAddr dest) = some bue) (status : ba.status = .accepted)
    (latest : ba.sequence.setWidth 32 = bue.sequence)
    (acknowledges : s.node.processBA ba (mn.bulAddr dest) = .ok (accepted, mn₂)) :
    ∃ bue', mn₂.findBU (mn.bulAddr dest) = some bue' ∧ bue'.expires.toNat ≤ bue.expires.toNat ∧
      (bue'.expires.toNat =
          min dgram.encapsulatedMsg.expires.toNat ba.lifetime.toNat - s.ticks ↔
        s.taken = 0 ∨ min dgram.encapsulatedMsg.expires.toNat ba.lifetime.toNat ≤ s.ticks) ∧
      ∀ later t, Runs (Granted.step (mn.bulAddr dest)) (Granted.Unsent (mn.bulAddr dest))
          ⟨mn₂, 0, 0⟩ later t →
        (max 1 bue'.expires.toNat ≤ t.ticks → t.node.findBU (mn.bulAddr dest) = none) ∧
        ∀ bue'', t.node.findBU (mn.bulAddr dest) = some bue'' →
          bue''.expires.toNat ≤ bue'.expires.toNat - t.ticks := by
  rcases MobileNode.sendBU_cases sends with ⟨unsent, -⟩ | ⟨sentDgram, old, new, same, sent⟩
  · cases unsent
  cases same
  rw [← sent.addr] at runs entry acknowledges ⊢
  have distinct : mn₁.bul.Distinct := sent.written.distinct reachable.distinct
  have counts := Granted.Counts.run distinct runs
  have start : mn₁.findBU new.addr = some new := (sent.written.findBU _).trans (if_pos rfl)
  obtain ⟨bue₀, found, less⟩ := counts.entry bue entry
  rw [start] at found
  cases found
  obtain ⟨bue', after, granted⟩ := MobileNode.processBA_accepts entry status latest acknowledges
  have expires : bue'.expires.toNat =
      dgram.encapsulatedMsg.expires.toNat -
        (s.ticks + s.taken + (dgram.encapsulatedMsg.expires.toNat - ba.lifetime.toNat)) := by
    rw [granted.expires, less.expires, less.lifetime, sent.lifetime, sent.expires]
    omega
  refine ⟨bue', after, ?_, ?_, ?_⟩
  · rw [granted.expires]
    omega
  · rw [expires]
    omega
  · intro later t runs_later
    have acknowledged : s.node.step (.processBA ba new.addr) = .ok mn₂ := by
      change (·.2) <$> s.node.processBA ba new.addr = .ok mn₂
      rw [acknowledges]
      rfl
    have later_counts := Granted.Counts.run
      (MobileNode.distinct_step counts.distinct acknowledged) runs_later
    constructor
    · intro enough
      by_contra present
      obtain ⟨bue'', found⟩ := Option.ne_none_iff_exists'.mp present
      obtain ⟨bu, still, less_later⟩ := later_counts.entry bue'' found
      rw [after] at still
      cases still
      have left := less_later.left
      omega
    · intro bue'' found
      obtain ⟨bu, still, less_later⟩ := later_counts.entry bue'' found
      rw [after] at still
      cases still
      rw [less_later.expires]
      omega

/-- Ten seconds are asked for, and five are granted after a tick. -/
theorem binding_lifetime_example :
    let mn := MobileNode.create ⟨1, 0, 0, 1⟩ ⟨1, 0, 0, 2⟩
    ∃ dgram mn₁ s mn₂ bue,
      mn.sendBU ⟨1, 0, 0, 2⟩ ⟨2, 0, 0, 1⟩ ⟨1, 0, 0, 1⟩ 10 true false 0 = .ok (some dgram, mn₁) ∧
      Granted.step ⟨1, 0, 0, 2⟩ ⟨mn₁, 0, 0⟩ .expireLifetimes = .ok s ∧
      s.node.processBA ⟨.accepted, 0, 5⟩ ⟨1, 0, 0, 2⟩ = .ok (true, mn₂) ∧
      mn₂.findBU ⟨1, 0, 0, 2⟩ = some bue ∧ bue.expires.toNat = 4 := by
  intro mn
  obtain ⟨dgram, mn₁, s, mn₂, bue, sends, ticks, acknowledges, addr, asked, entry, latest, counted⟩ :
      ∃ dgram mn₁ s mn₂ bue,
        mn.sendBU ⟨1, 0, 0, 2⟩ ⟨2, 0, 0, 1⟩ ⟨1, 0, 0, 1⟩ 10 true false 0 = .ok (some dgram, mn₁) ∧
        Granted.step ⟨1, 0, 0, 2⟩ ⟨mn₁, 0, 0⟩ .expireLifetimes = .ok s ∧
        s.node.processBA ⟨.accepted, 0, 5⟩ ⟨1, 0, 0, 2⟩ = .ok (true, mn₂) ∧
        mn.bulAddr ⟨1, 0, 0, 2⟩ = ⟨1, 0, 0, 2⟩ ∧ dgram.encapsulatedMsg.expires = 10 ∧
        s.node.findBU ⟨1, 0, 0, 2⟩ = some bue ∧
        (0 : BitVec 16).setWidth 32 = bue.sequence ∧ s.ticks = 1 ∧ s.taken = 0 :=
    ⟨_, _, _, _, _, rfl, rfl, rfl, rfl, rfl, rfl, rfl, rfl, rfl⟩
  have runs : Runs (Granted.step (mn.bulAddr ⟨1, 0, 0, 2⟩)) (Granted.Unsent (mn.bulAddr ⟨1, 0, 0, 2⟩))
      ⟨mn₁, 0, 0⟩ [.expireLifetimes] s := .cons trivial ticks (.nil s)
  obtain ⟨left, found, -, granted, -⟩ :=
    binding_lifetime (.create _ _) sends runs entry
      (rfl : BA.status ⟨.accepted, 0, 5⟩ = .accepted) latest acknowledges
  refine ⟨dgram, mn₁, s, mn₂, left, sends, ticks, acknowledges, found, ?_⟩
  rw [asked, counted.1] at granted
  exact granted.mpr (Or.inl counted.2)

/-- An acknowledgement that is delivered twice takes what it does not grant off twice. -/
theorem acknowledged_twice :
    let mn := MobileNode.create ⟨1, 0, 0, 1⟩ ⟨1, 0, 0, 2⟩
    ∃ dgram mn₁ mn₂ mn₃ bue,
      mn.sendBU ⟨1, 0, 0, 2⟩ ⟨2, 0, 0, 1⟩ ⟨1, 0, 0, 1⟩ 10 true false 0 = .ok (some dgram, mn₁) ∧
      mn₁.processBA ⟨.accepted, 0, 5⟩ ⟨1, 0, 0, 2⟩ = .ok (true, mn₂) ∧
      mn₂.processBA ⟨.accepted, 0, 5⟩ ⟨1, 0, 0, 2⟩ = .ok (true, mn₃) ∧
      mn₃.findBU ⟨1, 0, 0, 2⟩ = some bue ∧ bue.expires.toNat ≠ min 10 5 - 0 :=
  ⟨_, _, _, _, _, rfl, rfl, rfl, rfl, by decide⟩

end IPv6Suite
