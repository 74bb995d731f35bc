import IPv6Suite.MIPv6MStateMobileNode
import Mathlib.Tactic.Linarith

namespace IPv6Suite

open Lib

structure SentUpdate where
  time : ℚ
  dest : Ipv6Addr
  coa : Ipv6Addr
deriving DecidableEq

/-- A mobile node with the Binding Updates that it has sent, the last one at the end -/
structure UpdateHistory where
  node : MobileNode
  sent : List SentUpdate

def MobileNode.update (mn : MobileNode) : MobileNodeEvent → Option SentUpdate
  | .sendBU dest coa hoa lifetime homeReg mapReg timestamp =>
      match mn.sendBU dest coa hoa lifetime homeReg mapReg timestamp with
      | .ok (some dgram, _) => some ⟨mn.now, dgram.destAddress, dgram.srcAddress⟩
      | _ => none
  | _ => none

def UpdateHistory.step (h : UpdateHistory) (e : MobileNodeEvent) : Exec UpdateHistory := do
  let node ← h.node.step e
  return ⟨node, h.sent ++ (h.node.update e).toList⟩

namespace MobileNode

/-- The limit that `sendInits` has in place of `MAX_UPDATE_RATE` -/
def updateInterval : ℚ := 1 / 3

/-- The last Binding Update of the entry was sent long enough ago. -/
def Rested (mn : MobileNode) (bule : BuEntry) : Prop :=
  updateInterval ≤ mn.now - bule.lastTimeSent

instance restedDecidable (mn : MobileNode) (bule : BuEntry) : Decidable (mn.Rested bule) :=
  inferInstanceAs (Decidable (updateInterval ≤ mn.now - bule.lastTimeSent))

/-- An entry that a Binding Update is sent from, or that is lost, has rested, unless the call is
refused. Time does not run backwards. -/
def Spaced (mn : MobileNode) : MobileNodeEvent → Prop
  | .wait now => mn.now ≤ now
  | .bindings bc => ∀ dest bule, mn.findBuleFor dest = some bule → mn.Rested bule ∨
      { mn with bc }.findBuleFor dest = some bule
  | .sendBU dest coa .. => ∀ bule, mn.findBuleFor dest = some bule → mn.Rested bule ∨
      bule.careOfAddr = coa ∧ mn.now < bule.lastTimeSent
  | .processBA ba srcAddress => ∀ bule, mn.findBU srcAddress = some bule →
      acknowledged bule ba = none → mn.Rested bule
  | .processBE srcAddress => ∀ bule, mn.findBU srcAddress = some bule → mn.Rested bule
  | .expireLifetimes => ∀ bule ∈ mn.bul,
      BindingUpdateList.expire mipv6Period bule = none → mn.Rested bule
  | _ => True

variable {mn mn' : MobileNode} {dest : Ipv6Addr} {e : MobileNodeEvent}

/-- An entry has rested, or there is one afterwards that is at least as late. -/
def Keeps (mn : MobileNode) (bule : BuEntry) (after : Option BuEntry) : Prop :=
  mn.Rested bule ∨ ∃ bule', after = some bule' ∧ min bule.lastTimeSent mn.now ≤ bule'.lastTimeSent

theorem Keeps.same {bule bule' : BuEntry} (same : bule'.lastTimeSent = bule.lastTimeSent) :
    mn.Keeps bule (some bule') :=
  Or.inr ⟨bule', rfl, same ▸ min_le_left _ _⟩

theorem Keeps.now {bule bule' : BuEntry} (late : mn.now ≤ bule'.lastTimeSent) : mn.Keeps bule (some bule') :=
  Or.inr ⟨bule', rfl, (min_le_right _ _).trans late⟩

variable {bule : BuEntry}

/-- What is true of the entries of all destinations is true of those that stand for them. -/
theorem keeps_findBuleFor (mn' : MobileNode) (bc : mn'.bc = mn.bc)
    (enhance : mn'.signalingEnhance = mn.signalingEnhance)
    (kept : ∀ addr bule, mn.findBU addr = some bule → mn.Keeps bule (mn'.findBU addr))
    (fresh : ∀ addr bule, mn.findBU addr = none → mn'.findBU addr = some bule → mn.now ≤ bule.lastTimeSent)
    (found : mn.findBuleFor dest = some bule) : mn.Keeps bule (mn'.findBuleFor dest) := by
  have plain : mn.findBU dest = some bule → mn.Keeps bule (mn'.findBU dest) := kept dest bule
  unfold findBuleFor at found ⊢
  rw [bc, enhance]
  dsimp only at found ⊢
  by_cases enhanced : mn.signalingEnhance = true
  · rw [if_pos enhanced] at found ⊢
    cases binding : mn.bc.findBindingByCoA dest with
    | none =>
        rw [binding, Option.bind_none, Option.none_or] at found
        rw [Option.bind_none, Option.none_or]
        exact plain found
    | some bce =>
        rw [binding, Option.bind_some] at found
        rw [Option.bind_some]
        rcases Option.or_eq_some_iff.mp found with byHome | ⟨absent, byDest⟩
        · rcases kept bce.homeAddr bule byHome with rested | ⟨bule', after, late⟩
          · exact Or.inl rested
          · rw [after, Option.some_or]
            exact Or.inr ⟨bule', rfl, late⟩
        · cases after : mn'.findBU bce.homeAddr with
          | none =>
              rw [Option.none_or]
              exact plain byDest
          | some bule' =>
              rw [Option.some_or]
              exact Keeps.now (fresh bce.homeAddr bule' absent after)
  · rw [if_neg enhanced, Option.none_or] at found ⊢
    exact plain found

theorem keeps_modifyBU {f : BuEntry → BuEntry} {addr : Ipv6Addr}
    (mn' : MobileNode) (bc : mn'.bc = mn.bc) (enhance : mn'.signalingEnhance = mn.signalingEnhance)
    (bul : mn'.bul = mn.bul.modifyBU addr f) (keeps : ∀ bue : BuEntry, bue.addr = addr → (f bue).addr = addr)
    (time : ∀ bue, mn.findBU addr = some bue →
      (f bue).lastTimeSent = bue.lastTimeSent ∨ mn.now ≤ (f bue).lastTimeSent)
    (found : mn.findBuleFor dest = some bule) : mn.Keeps bule (mn'.findBuleFor dest) := by
  have lookup : ∀ other, mn'.findBU other =
      if addr = other then (mn.findBU addr).map f else mn.findBU other := by
    intro other
    rw [findBU, bul]
    exact BindingUpdateList.findBU_modifyBU keeps
  apply keeps_findBuleFor mn' bc enhance ?_ ?_ found
  · intro other bue before
    rw [lookup]
    split
    · rename_i same
      rw [same, before, Option.map_some]
      rcases time bue (same ▸ before) with kept | late
      · exact Keeps.same kept
      · exact Keeps.now late
    · rw [before]
      exact Keeps.same rfl
  · intro other bue absent present
    rw [lookup] at present
    split at present
    · rename_i same
      rw [same, absent] at present
      cases present
    · rw [absent] at present
      cases present

theorem keeps_bind {f : Ipv6Addr → BuEntry → Option BuEntry} (mn' : MobileNode)
    (bc : mn'.bc = mn.bc) (enhance : mn'.signalingEnhance = mn.signalingEnhance)
    (lookup : ∀ other, mn'.findBU other = (mn.findBU other).bind (f other))
    (time : ∀ other bue bue', f other bue = some bue' → bue'.lastTimeSent = bue.lastTimeSent)
    (removed : ∀ other bue, mn.findBU other = some bue → f other bue = none → mn.Rested bue)
    (found : mn.findBuleFor dest = some bule) : mn.Keeps bule (mn'.findBuleFor dest) := by
  apply keeps_findBuleFor mn' bc enhance ?_ ?_ found
  · intro other bue before
    rw [lookup, before, Option.bind_some]
    cases left : f other bue with
    | none => exact Or.inl (removed other bue before left)
    | some bue' => exact Keeps.same (time other bue bue' left)
  · intro other bue absent present
    rw [lookup, absent] at present
    cases present

variable {bue bue' : BuEntry} {ba : BA}

theorem acknowledged_lastTimeSent
    (updated : acknowledged bue ba = some bue') : bue'.lastTimeSent = bue.lastTimeSent := by
  unfold acknowledged at updated
  split at updated
  · dsimp only at updated
    split at updated <;> · cases updated; rfl
  · split at updated <;> · cases updated; rfl
  · cases updated

theorem expire_lastTimeSent (kept : BindingUpdateList.expire mipv6Period bue = some bue') :
    bue'.lastTimeSent = bue.lastTimeSent := by
  unfold BindingUpdateList.expire at kept
  split at kept
  · cases kept
    rfl
  · cases kept

variable {srcAddress : Ipv6Addr}

theorem stopTmr_eq (stops : mn.stopTmr srcAddress = .ok mn') :
    ∃ awayFromHome buRetranTmrs, mn' = { mn with awayFromHome, buRetranTmrs } := by
  unfold stopTmr at stops
  split at stops
  · cases stops
    exact ⟨_, _, rfl⟩
  · obtain ⟨tmr, -, rest⟩ := bind_eq_ok.mp stops
    obtain ⟨home, returns, rest⟩ := bind_eq_ok.mp rest
    cases rest
    split at returns
    · obtain ⟨ha, -, rest⟩ := bind_eq_ok.mp returns
      cases rest
      split
      · exact ⟨_, _, rfl⟩
      · exact ⟨_, _, rfl⟩
    · cases returns
      exact ⟨_, _, rfl⟩

theorem keeps_removeBU (mn' : MobileNode)
    (bc : mn'.bc = mn.bc) (enhance : mn'.signalingEnhance = mn.signalingEnhance)
    (bul : mn'.bul = mn.bul.removeBU srcAddress) (distinct : mn.bul.Distinct)
    (removed : ∀ bue, mn.findBU srcAddress = some bue → mn.Rested bue)
    (found : mn.findBuleFor dest = some bule) : mn.Keeps bule (mn'.findBuleFor dest) := by
  refine keeps_bind (f := fun other bue => if srcAddress = other then none else some bue) mn' bc
    enhance ?_ ?_ ?_ found
  · intro other
    rw [findBU, bul, distinct.findBU_removeBU]
    change (if srcAddress = other then none else mn.findBU other) = _
    split
    · cases mn.findBU other <;> rfl
    · cases mn.findBU other <;> rfl
  · intro other bue bue' kept
    split at kept
    · cases kept
    · cases kept
      rfl
  · intro other bue before gone
    split at gone
    · rename_i same
      exact removed bue (same ▸ before)
    · cases gone

theorem processBA_keeps {accepted : Bool}
    (distinct : mn.bul.Distinct) (spaced : mn.Spaced (.processBA ba srcAddress))
    (acknowledges : mn.processBA ba srcAddress = .ok (accepted, mn')) :
    mn'.now = mn.now ∧ ∀ bule, mn.findBuleFor dest = some bule → mn.Keeps bule (mn'.findBuleFor dest) := by
  rcases processBA_cases acknowledges with ⟨-, -, -, -, rfl⟩ | ⟨stopped, stops, -, rest⟩
  · exact ⟨rfl, fun bule found => found ▸ Keeps.same rfl⟩
  · obtain ⟨away, tmrs, rfl⟩ := stopTmr_eq stops
    obtain ⟨-, rfl⟩ | ⟨bue, before, -, ⟨bue', updated, rfl⟩ | ⟨removed, rfl⟩⟩ := rest
    · refine ⟨rfl, fun bule found => ?_⟩
      change mn.Keeps bule (mn.findBuleFor dest)
      rw [found]
      exact Keeps.same rfl
    · have addr : bue'.addr = srcAddress :=
        (acknowledged_addr updated).trans (BindingUpdateList.findBU_addr before)
      refine ⟨rfl, fun bule => keeps_modifyBU _ rfl rfl rfl (fun _ _ => addr) ?_⟩
      intro other present
      rw [before, Option.some.injEq] at present
      rw [← present]
      exact Or.inl (acknowledged_lastTimeSent updated)
    · refine ⟨rfl, fun bule => keeps_removeBU _ rfl rfl rfl distinct ?_⟩
      intro other present
      rw [before, Option.some.injEq] at present
      rw [← present]
      exact spaced bue before removed

theorem now_le_sent : mn.now ≤ mn.now + selfScheduleDelay := by
  have positive : (0 : ℚ) < selfScheduleDelay := by
    unfold selfScheduleDelay
    norm_num
  linarith

variable {homeReg mapReg : Bool}

variable {dgram : MobilityDatagram BU} {old : Option BuEntry}

theorem Sent.keeps {other coa hoa : Ipv6Addr} {new bule : BuEntry}
    (sending : Sent mn other coa hoa homeReg mapReg dgram old new mn')
    (found : mn.findBuleFor dest = some bule) : mn.Keeps bule (mn'.findBuleFor dest) := by
  have late : mn.now ≤ new.lastTimeSent := sending.updated.lastTimeSent ▸ now_le_sent
  have lookup := sending.written.findBU
  obtain ⟨bul, tmrs, settings⟩ := sending.settings
  refine keeps_findBuleFor mn' (settings ▸ rfl) (settings ▸ rfl) ?_ ?_ found
  · intro addr bue before
    rw [lookup]
    split
    · exact Keeps.now late
    · rw [before]
      exact Keeps.same rfl
  · intro addr bue absent present
    rw [lookup, absent] at present
    split at present
    · cases present
      exact late
    · cases present

variable {coa hoa : Ipv6Addr}

theorem Sent.findBuleFor {new : BuEntry} (sending : Sent mn dest coa hoa homeReg mapReg dgram old new mn') :
    mn'.findBuleFor dest = some new := by
  have addr := sending.addr
  have lookup := sending.written.findBU
  obtain ⟨bul, tmrs, settings⟩ := sending.settings
  have bc : mn'.bc = mn.bc := settings ▸ rfl
  have enhance : mn'.signalingEnhance = mn.signalingEnhance := settings ▸ rfl
  unfold bulAddr at addr
  unfold MobileNode.findBuleFor at addr ⊢
  rw [bc, enhance]
  dsimp only at addr ⊢
  -- without an entry the new one has the destination itself as its address
  have atDest {bue : Option BuEntry} (entry : bue = mn.findBU dest)
      (written : new.addr = (bue.map (·.addr)).getD dest) : mn'.findBU dest = some new := by
    rw [lookup, if_pos]
    rw [written, entry]
    cases before : mn.findBU dest with
    | none => rfl
    | some bule => exact BindingUpdateList.findBU_addr before
  by_cases enhanced : mn.signalingEnhance = true
  · rw [if_pos enhanced] at addr ⊢
    cases binding : mn.bc.findBindingByCoA dest with
    | none =>
        rw [binding, Option.bind_none, Option.none_or] at addr
        rw [Option.bind_none, Option.none_or]
        exact atDest rfl addr
    | some bce =>
        rw [binding, Option.bind_some] at addr
        rw [Option.bind_some]
        cases byHome : mn.findBU bce.homeAddr with
        | some bule =>
            rw [byHome, Option.some_or, Option.map_some, Option.getD_some] at addr
            rw [lookup, if_pos (addr.trans (BindingUpdateList.findBU_addr byHome))]
            rfl
        | none =>
            rw [byHome, Option.none_or] at addr
            rw [atDest rfl addr, lookup, byHome]
            split
            · rfl
            · rfl
  · rw [if_neg enhanced, Option.none_or] at addr
    rw [if_neg enhanced, Option.none_or]
    exact atDest rfl addr

theorem step_keeps (distinct : mn.bul.Distinct) (spaced : mn.Spaced e) (steps : mn.step e = .ok mn') :
    mn.now ≤ mn'.now ∧ ∀ dest bule, mn.findBuleFor dest = some bule → mn.Keeps bule (mn'.findBuleFor dest) := by
  cases e with
  | wait now =>
      cases steps
      refine ⟨spaced, fun dest bule found => ?_⟩
      change mn.Keeps bule (mn.findBuleFor dest)
      rw [found]
      exact Keeps.same rfl
  | bindings bc =>
      cases steps
      refine ⟨le_refl _, fun dest bule found => ?_⟩
      rcases spaced dest bule found with rested | same
      · exact Or.inl rested
      · rw [same]
        exact Keeps.same rfl
  | routability addr homeNI careOfNI hoti coti =>
      cases steps
      exact ⟨le_refl _, fun _ _ =>
        keeps_modifyBU _ rfl rfl rfl (fun _ same => same) fun _ _ => Or.inl rfl⟩
  | sendBU other coa hoa lifetime homeReg mapReg timestamp =>
      obtain ⟨sent, sends⟩ := snd_map_eq_ok steps
      rcases sendBU_cases sends with ⟨-, rfl⟩ | ⟨dgram, old, new, -, sending⟩
      · exact ⟨le_refl _, fun _ _ found => found ▸ Keeps.same rfl⟩
      · obtain ⟨bul, tmrs, settings⟩ := sending.settings
        exact ⟨settings ▸ le_refl _, fun _ _ => sending.keeps⟩
  | retransmitBU i =>
      obtain ⟨sent, fires⟩ := snd_map_eq_ok steps
      obtain ⟨tmr, -, ⟨-, -, rfl⟩ | ⟨resent, dgram, timeout, scheduled, -, before, -, -, rfl⟩ |
        ⟨-, -, rfl⟩⟩ := retransmitBU_cases fires
      · refine ⟨le_refl _, fun dest bule found => ?_⟩
        change mn.Keeps bule (mn.findBuleFor dest)
        rw [found]
        exact Keeps.same rfl
      · exact ⟨le_refl _, fun _ _ => keeps_modifyBU _ rfl rfl rfl
          (fun _ _ => resend_addr before) fun _ _ => Or.inr (le_refl _)⟩
      · exact ⟨le_refl _, fun _ _ => keeps_modifyBU _ rfl rfl rfl (fun _ same => same)
          fun _ _ => Or.inl rfl⟩
  | processBA ba srcAddress =>
      obtain ⟨accepted, acknowledges⟩ := snd_map_eq_ok steps
      have kept {dest : Ipv6Addr} : mn'.now = mn.now ∧ ∀ bule, mn.findBuleFor dest = some bule →
          mn.Keeps bule (mn'.findBuleFor dest) := processBA_keeps distinct spaced acknowledges
      exact ⟨(@kept srcAddress).1.ge, fun _ => kept.2⟩
  | processBE srcAddress =>
      cases steps
      exact ⟨le_refl _, fun _ _ => keeps_removeBU _ rfl rfl rfl distinct spaced⟩
  | expireLifetimes =>
      cases steps
      refine ⟨le_refl _, fun dest bule => keeps_bind
        (f := fun _ => BindingUpdateList.expire mipv6Period) _ rfl rfl
        (fun _ => distinct.findBU_expireLifetimes) ?_ ?_⟩
      · exact fun _ _ _ => expire_lastTimeSent
      · intro other bue before gone
        exact spaced bue (BindingUpdateList.mem_of_findBU before) gone

theorem sendBU_refused {lifetime : Nat} {timestamp : ℚ}
    {sent : Option (MobilityDatagram BU)} (found : mn.findBuleFor dest = some bule)
    (same : bule.careOfAddr = coa) (early : mn.now < bule.lastTimeSent)
    (sends : mn.sendBU dest coa hoa lifetime homeReg mapReg timestamp = .ok (sent, mn')) : sent = none := by
  unfold sendBU at sends
  obtain ⟨_, -, rest⟩ := bind_eq_ok.mp sends
  have limited : ((mn.findBuleFor dest).any fun bule =>
      bule.careOfAddr = coa ∧ mn.now - bule.lastTimeSent < maxUpdateRate) = true := by
    rw [found]
    apply decide_eq_true
    exact ⟨same, sub_neg.mpr early⟩
  rw [if_pos limited] at rest
  cases rest
  rfl

variable {u : SentUpdate}

theorem update_eq_some (sends : mn.update e = some u) (steps : mn.step e = .ok mn') :
    ∃ dest coa hoa lifetime homeReg mapReg timestamp dgram old new,
      e = .sendBU dest coa hoa lifetime homeReg mapReg timestamp ∧
      mn.sendBU dest coa hoa lifetime homeReg mapReg timestamp = .ok (some dgram, mn') ∧
      u = ⟨mn.now, dest, coa⟩ ∧ Sent mn dest coa hoa homeReg mapReg dgram old new mn' := by
  cases e with
  | sendBU dest coa hoa lifetime homeReg mapReg timestamp =>
      obtain ⟨reply, returns⟩ := snd_map_eq_ok steps
      change (match mn.sendBU dest coa hoa lifetime homeReg mapReg timestamp with
        | .ok (some dgram, _) => some (SentUpdate.mk mn.now dgram.destAddress dgram.srcAddress)
        | _ => none) = some u at sends
      rw [returns] at sends
      rcases sendBU_cases returns with ⟨rfl, -⟩ | ⟨dgram, old, new, rfl, sending⟩
      · cases sends
      · cases sends
        exact ⟨dest, coa, hoa, lifetime, homeReg, mapReg, timestamp, dgram, old, new, rfl, returns,
          by rw [sending.destAddress, sending.srcAddress], sending⟩
  | _ => cases sends

theorem update_standing (sends : mn.update e = some u) (steps : mn.step e = .ok mn') :
    u.time ≤ mn'.now ∧ ∃ bule, mn'.findBuleFor u.dest = some bule ∧ u.time ≤ bule.lastTimeSent := by
  obtain ⟨dest, coa, hoa, lifetime, homeReg, mapReg, timestamp, dgram, old, new, -, -, rfl, sending⟩ :=
    update_eq_some sends steps
  obtain ⟨bul, tmrs, settings⟩ := sending.settings
  refine ⟨settings ▸ le_refl _, new, sending.findBuleFor, ?_⟩
  rw [sending.updated.lastTimeSent]
  exact now_le_sent

end MobileNode

namespace UpdateHistory

open MobileNode

variable {h h' : UpdateHistory} {e : MobileNodeEvent}

/-- Two updates of one destination and care-of address are apart, and what stands for the
destination of an update is no earlier, unless that is long ago. -/
structure Covered (h : UpdateHistory) : Prop where
  distinct : h.node.bul.Distinct
  apart : h.sent.Pairwise fun a b =>
    a.dest = b.dest → a.coa = b.coa → updateInterval ≤ b.time - a.time
  past : ∀ u ∈ h.sent, u.time ≤ h.node.now
  standing : ∀ u ∈ h.sent, updateInterval ≤ h.node.now - u.time ∨
    ∃ bule, h.node.findBuleFor u.dest = some bule ∧ u.time ≤ bule.lastTimeSent

variable {node : MobileNode}

/-- Every update that was sent before is still accounted for. -/
theorem Covered.node_step (covered : h.Covered) (spaced : h.node.Spaced e)
    (steps : h.node.step e = .ok node) : Covered ⟨node, h.sent⟩ := by
  obtain ⟨later, keeps⟩ := step_keeps covered.distinct spaced steps
  refine ⟨distinct_step covered.distinct steps, covered.apart, ?_, ?_⟩
  · exact fun u member => (covered.past u member).trans later
  · intro u member
    have past := covered.past u member
    change updateInterval ≤ node.now - u.time ∨ _
    rcases covered.standing u member with long | ⟨bule, found, late⟩
    · left
      linarith
    · rcases keeps u.dest bule found with rested | ⟨bule', found', late'⟩
      · left
        change updateInterval ≤ h.node.now - bule.lastTimeSent at rested
        linarith
      · exact Or.inr ⟨bule', found', (le_min late past).trans late'⟩

/-- The new update follows the others of its destination and care-of address at a distance. -/
theorem Covered.apart_update {u v : SentUpdate} (covered : h.Covered)
    (spaced : h.node.Spaced e) (sends : h.node.update e = some v) (steps : h.node.step e = .ok node)
    (member : u ∈ h.sent) (dest : u.dest = v.dest) (coa : u.coa = v.coa) : updateInterval ≤ v.time - u.time := by
  obtain ⟨_, _, _, _, _, _, _, _, _, _, rfl, sent, rfl, -⟩ := update_eq_some sends steps
  change u.dest = _ at dest
  change updateInterval ≤ h.node.now - u.time
  rcases covered.standing u member with long | ⟨bule, found, late⟩
  · exact long
  · rw [dest] at found
    rcases spaced bule found with rested | ⟨same, early⟩
    · change updateInterval ≤ h.node.now - bule.lastTimeSent at rested
      linarith
    · cases sendBU_refused found same early sent

theorem Covered.step (covered : h.Covered) (spaced : h.node.Spaced e) (steps : h.step e = .ok h') : h'.Covered := by
  obtain ⟨node, taken, rest⟩ := bind_eq_ok.mp steps
  cases rest
  have before := covered.node_step spaced taken
  cases sends : h.node.update e with
  | none =>
      rw [Option.toList_none, List.append_nil]
      exact before
  | some v =>
      rw [Option.toList_some]
      obtain ⟨time, bule, found, late⟩ := update_standing sends taken
      refine ⟨before.distinct, ?_, ?_, ?_⟩
      · apply List.pairwise_append.mpr
        refine ⟨covered.apart, List.pairwise_singleton _ _, ?_⟩
        intro u member w last dest coa
        rw [List.mem_singleton.mp last] at dest coa ⊢
        exact covered.apart_update spaced sends taken member dest coa
      · intro u member
        rcases List.mem_append.mp member with old | last
        · exact before.past u old
        · rw [List.mem_singleton.mp last]
          exact time
      · intro u member
        rcases List.mem_append.mp member with old | last
        · exact before.standing u old
        · rw [List.mem_singleton.mp last]
          exact Or.inr ⟨bule, found, late⟩

end UpdateHistory

namespace UpdateHistory

end UpdateHistory

end IPv6Suite
