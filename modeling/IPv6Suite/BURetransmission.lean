import IPv6Suite.MIPv6MStateMobileNode
import Mathlib.Data.List.InsertIdx

namespace IPv6Suite

open Lib

namespace MobileNode

/-- The destinations of the retransmission timers -/
def dests (mn : MobileNode) : List Ipv6Addr := mn.buRetranTmrs.map (·.dgram.destAddress)

/-- A Binding Update to `dest` has not been acknowledged. -/
def Waiting (mn : MobileNode) (dest : Ipv6Addr) : Prop :=
  ∃ bue, mn.findBU dest = some bue ∧ bue.state ≠ 0

/-- One timer for each destination that has not acknowledged a Binding Update. -/
structure Timed (mn : MobileNode) : Prop where
  distinct : mn.bul.Distinct
  single : mn.dests.Nodup
  waiting : ∀ dest, dest ∈ mn.dests ↔ mn.Waiting dest

/-- The steps that keep the timers and the entries together: the entry of a destination is its own,
its count does not wrap, and nothing removes or spares it while it waits. -/
def Regular (mn : MobileNode) : MobileNodeEvent → Prop
  | .sendBU dest .. => mn.bulAddr dest = dest ∧
      ∀ bue, mn.findBU dest = some bue → bue.state + 1 ≠ 0
  | .retransmitBU i => ∀ dest, mn.dests[i]? = some dest → dest ≠ .unspecified ∧
      ∀ bue, mn.findBU dest = some bue → bue.state + 1 ≠ 0
  | .processBA ba srcAddress => ∀ bue, mn.findBU srcAddress = some bue →
      ba.sequence.setWidth 32 = bue.sequence → ba.status = .seqOutOfWindow → bue.state = 0
  | .processBE srcAddress => ¬ mn.Waiting srcAddress
  | .expireLifetimes => ∀ dest bue, mn.findBU dest = some bue →
      BindingUpdateList.expire mipv6Period bue = none → bue.state = 0
  | _ => True

variable {mn mn' : MobileNode} {dest other : Ipv6Addr} {bue : BuEntry} {i : Nat}

theorem findBuleFor_own (own : mn.bulAddr dest = dest) : mn.findBuleFor dest = mn.findBU dest := by
  unfold bulAddr at own
  cases found : mn.findBuleFor dest with
  | none => exact (findBuleFor_none found).symm
  | some bule =>
      rw [found] at own
      have addr : bule.addr = dest := own
      exact (addr ▸ findBuleFor_addr found).symm

theorem mem_eraseIdx_dests (single : mn.dests.Nodup) (place : mn.dests[i]? = some dest) :
    other ∈ mn.dests.eraseIdx i ↔ other ≠ dest ∧ other ∈ mn.dests := by
  obtain ⟨bound, at_i⟩ := List.getElem?_eq_some_iff.mp place
  rw [← single.erase_getElem i bound, at_i]
  exact single.mem_erase_iff

theorem dests_removeBURetranTmr : (mn.removeBURetranTmr i).dests = mn.dests.eraseIdx i :=
  (List.eraseIdx_map _ _ _).symm

variable {tmr : BURetranTmr}

theorem dests_setTmr (place : mn.dests[i]? = some tmr.dgram.destAddress) : (mn.setTmr i tmr).dests = mn.dests := by
  unfold dests setTmr
  rw [List.map_set]
  obtain ⟨bound, at_i⟩ := List.getElem?_eq_some_iff.mp place
  apply List.ext_getElem (List.length_set ..)
  intro j _ _
  rw [List.getElem_set]
  split
  · rename_i same
    subst same
    exact at_i.symm
  · rfl

theorem findTmr_some (found : mn.findTmr dest = some i) : mn.dests[i]? = some dest := by
  obtain ⟨bound, at_i, -⟩ := List.findIdx?_eq_some_iff_getElem.mp found
  unfold dests
  rw [List.getElem?_map, List.getElem?_eq_getElem bound]
  exact congrArg some (of_decide_eq_true at_i)

theorem findTmr_none (absent : mn.findTmr dest = none) : dest ∉ mn.dests := by
  intro member
  obtain ⟨tmr, timer, same⟩ := List.mem_map.mp member
  have differs := List.findIdx?_eq_none_iff.mp absent tmr timer
  rw [same, decide_eq_true rfl] at differs
  cases differs

theorem Timed.of_same (timed : Timed mn) (distinct : mn'.bul.Distinct) (dests : mn'.dests = mn.dests)
    (waiting : ∀ dest, mn'.Waiting dest ↔ mn.Waiting dest) : Timed mn' where
  distinct := distinct
  single := dests ▸ timed.single
  waiting dest := by
    rw [dests, waiting]
    exact timed.waiting dest

theorem Timed.of_erase (timed : Timed mn) (place : mn.dests[i]? = some dest)
    (distinct : mn'.bul.Distinct) (dests : mn'.dests = mn.dests.eraseIdx i)
    (waiting : ∀ other, mn'.Waiting other ↔ other ≠ dest ∧ mn.Waiting other) : Timed mn' where
  distinct := distinct
  single := dests ▸ timed.single.eraseIdx i
  waiting other := by
    rw [dests, mem_eraseIdx_dests timed.single place, waiting]
    exact and_congr_right fun _ => timed.waiting other

variable {f : BuEntry → BuEntry}

theorem waiting_modifyBU (keeps : ∀ bue : BuEntry, bue.addr = dest → (f bue).addr = dest) :
    (mn.modifyBU dest f).Waiting other ↔
      if dest = other then ∃ bue, mn.findBU dest = some bue ∧ (f bue).state ≠ 0
      else mn.Waiting other := by
  unfold Waiting
  change (∃ bue, BindingUpdateList.findBU (BindingUpdateList.modifyBU dest f mn.bul) other = some bue ∧
    bue.state ≠ 0) ↔ _
  rw [BindingUpdateList.findBU_modifyBU keeps]
  split
  · constructor
    · rintro ⟨bue, found, some⟩
      obtain ⟨before, entry, rfl⟩ := Option.map_eq_some_iff.mp found
      exact ⟨before, entry, some⟩
    · rintro ⟨bue, found, some⟩
      exact ⟨f bue, Option.map_eq_some_iff.mpr ⟨bue, found, rfl⟩, some⟩
  · exact Iff.rfl

theorem waiting_modifyBU_same (keeps : ∀ bue : BuEntry, bue.addr = dest → (f bue).addr = dest)
    (state : ∀ bue, mn.findBU dest = some bue → ((f bue).state ≠ 0 ↔ bue.state ≠ 0)) :
    (mn.modifyBU dest f).Waiting other ↔ mn.Waiting other := by
  rw [waiting_modifyBU keeps]
  split
  · rename_i same
    subst same
    exact exists_congr fun bue => and_congr_right (state bue)
  · exact Iff.rfl

theorem waiting_modifyBU_done (keeps : ∀ bue : BuEntry, bue.addr = dest → (f bue).addr = dest)
    (state : ∀ bue, mn.findBU dest = some bue → (f bue).state = 0) :
    (mn.modifyBU dest f).Waiting other ↔ other ≠ dest ∧ mn.Waiting other := by
  rw [waiting_modifyBU keeps]
  split
  · rename_i same
    constructor
    · rintro ⟨bue, found, some⟩
      exact absurd (state bue found) some
    · rintro ⟨differs, -⟩
      exact absurd same.symm differs
  · rename_i differs
    exact (and_iff_right fun same => differs same.symm).symm

theorem waiting_removeBU (distinct : mn.bul.Distinct) :
    ({ mn with bul := mn.bul.removeBU dest } : MobileNode).Waiting other ↔
      other ≠ dest ∧ mn.Waiting other := by
  unfold Waiting
  change (∃ bue, BindingUpdateList.findBU (mn.bul.removeBU dest) other = some bue ∧ _) ↔ _
  rw [distinct.findBU_removeBU]
  split
  · rename_i same
    constructor
    · rintro ⟨bue, found, -⟩
      cases found
    · rintro ⟨differs, -⟩
      exact absurd same.symm differs
  · rename_i differs
    exact (and_iff_right fun same => differs same.symm).symm

variable {old : Option BuEntry} {dgram : MobilityDatagram BU}

theorem startTmr_dests :
    (mn.startTmr old dgram).dests =
      if old.all fun bue => bue.state = 0 then mn.dests ++ [dgram.destAddress] else mn.dests := by
  unfold startTmr
  dsimp only
  split
  · exact List.map_append
  · split
    · rename_i i found
      exact dests_setTmr (findTmr_some found)
    · rfl

variable {new : BuEntry}

theorem Written.waiting {before : MobileNode} (written : Written mn before new mn') :
    mn'.Waiting other ↔ if new.addr = other then new.state ≠ 0 else mn.Waiting other := by
  unfold Waiting
  rw [written.findBU]
  split
  · constructor
    · rintro ⟨bue, found, some⟩
      cases found
      exact some
    · exact fun some => ⟨new, rfl, some⟩
  · exact Iff.rfl

/-- A Binding Update that has to be acknowledged makes its destination wait. -/
theorem Timed.sent {coa hoa : Ipv6Addr} {homeReg mapReg : Bool} (timed : Timed mn) (own : mn.bulAddr dest = dest)
    (small : ∀ bue, mn.findBU dest = some bue → bue.state + 1 ≠ 0)
    (sending : Sent mn dest coa hoa homeReg mapReg dgram old new mn') : Timed mn' := by
  have distinct := sending.written.distinct timed.distinct
  have addr : new.addr = dest := sending.addr.trans own
  have entry : mn.findBU dest = old := (findBuleFor_own own).symm.trans sending.found
  have state := sending.state
  have timers := sending.written.timers
  have waits : mn.Waiting dest ↔ ¬ (old.all fun bue => bue.state = 0) = true := by
    unfold Waiting
    rw [entry]
    cases old with
    | none => simp
    | some bue => simp
  cases ack : dgram.encapsulatedMsg.ack with
  | false =>
      rw [ack, if_neg Bool.false_ne_true] at state timers
      refine timed.of_same distinct (congrArg (List.map _) timers) ?_
      intro other
      rw [sending.written.waiting, addr]
      split
      · rename_i same
        subst same
        rw [waits, state]
        cases old with
        | none => simp
        | some bue => simp
      · exact Iff.rfl
  | true =>
      rw [ack, if_pos rfl] at state timers
      have some : new.state ≠ 0 := by
        rw [state]
        cases old with
        | none => decide
        | some bue => exact small bue entry
      have dests : mn'.dests = (mn.startTmr old dgram).dests := congrArg (List.map _) timers
      rw [startTmr_dests, sending.destAddress] at dests
      have waiting : ∀ other, mn'.Waiting other ↔ other = dest ∨ mn.Waiting other := by
        intro other
        rw [sending.written.waiting, addr]
        split
        · rename_i same
          exact iff_of_true some (Or.inl same.symm)
        · rename_i differs
          exact (or_iff_right fun same => differs same.symm).symm
      split at dests
      · rename_i idle
        have absent : dest ∉ mn.dests := fun member => waits.mp ((timed.waiting dest).mp member) idle
        refine ⟨distinct, ?_, ?_⟩
        · rw [dests]
          apply List.nodup_append.mpr
          refine ⟨timed.single, List.nodup_singleton _, ?_⟩
          intro first member second last same
          rw [List.mem_singleton.mp last] at same
          exact absent (same ▸ member)
        · intro other
          rw [dests, waiting, List.mem_append, List.mem_singleton, timed.waiting]
          exact or_comm
      · rename_i busy
        refine timed.of_same distinct dests ?_
        intro other
        rw [waiting]
        refine or_iff_right_of_imp ?_
        rintro rfl
        exact waits.mpr busy

theorem Timed.place (place : mn.buRetranTmrs[i]? = some tmr) : mn.dests[i]? = some tmr.dgram.destAddress := by
  unfold dests
  rw [List.getElem?_map, place]
  rfl

theorem Timed.fired {sent : Option (MobilityDatagram BU)} (timed : Timed mn)
    (regular : ∀ dest, mn.dests[i]? = some dest → dest ≠ .unspecified ∧
      ∀ bue, mn.findBU dest = some bue → bue.state + 1 ≠ 0)
    (fires : mn.retransmitBU i = .ok (sent, mn')) (distinct : mn'.bul.Distinct) : Timed mn' := by
  obtain ⟨tmr, at_i, cases⟩ := retransmitBU_cases fires
  have place := Timed.place at_i
  obtain ⟨specified, small⟩ := regular _ place
  have waits : mn.Waiting tmr.dgram.destAddress :=
    (timed.waiting _).mp (List.mem_of_getElem? place)
  obtain ⟨gone, -, -⟩ | ⟨bule, dgram, timeout, scheduled, -, found, -, rfl, rfl⟩ | ⟨-, -, rfl⟩ := cases
  · obtain ⟨bue, found, -⟩ := waits
    rcases gone with unspecified | ⟨-, absent⟩
    · exact absurd unspecified specified
    · rw [found] at absent
      cases absent
  · have keeps : ∀ bue : BuEntry, bue.addr = tmr.dgram.destAddress →
        (bule.resend mn.now).addr = tmr.dgram.destAddress := fun _ _ => resend_addr found
    refine timed.of_same distinct ?_ ?_
    · exact dests_setTmr place
    · intro other
      change (mn.modifyBU _ _).Waiting other ↔ _
      refine waiting_modifyBU_same keeps ?_
      intro bue entry
      rw [found] at entry
      cases entry
      obtain ⟨bue, entry, some⟩ := waits
      rw [found] at entry
      cases entry
      exact iff_of_true (small _ found) some
  · refine timed.of_erase place distinct dests_removeBURetranTmr ?_
    intro other
    exact waiting_modifyBU_done (fun _ same => same) fun _ _ => rfl

theorem Timed.stopped {stopped : MobileNode} (timed : Timed mn) (stops : mn.stopTmr dest = .ok stopped)
    (timers : mn'.buRetranTmrs = stopped.buRetranTmrs) (distinct : mn'.bul.Distinct)
    (waiting : ∀ other, mn'.Waiting other ↔ other ≠ dest ∧ mn.Waiting other) : Timed mn' := by
  have left := timers.trans (stopTmr_ok stops).2
  split at left
  · rename_i absent
    refine timed.of_same distinct (congrArg (List.map _) left) ?_
    intro other
    rw [waiting]
    refine and_iff_right_of_imp ?_
    rintro waits rfl
    exact findTmr_none absent ((timed.waiting _).mpr waits)
  · rename_i i found
    refine timed.of_erase (findTmr_some found) distinct ?_ waiting
    unfold dests
    rw [left]
    exact (List.eraseIdx_map _ _ _).symm

variable {bue' : BuEntry} {ba : BA}

theorem acknowledged_state (updated : acknowledged bue ba = some bue')
    (regular : ba.status = .seqOutOfWindow → bue.state = 0) : bue'.state = 0 := by
  unfold acknowledged at updated
  split at updated
  · dsimp only at updated
    split at updated <;> · cases updated; rfl
  · rename_i status
    split at updated <;> · cases updated; exact regular status
  · cases updated

theorem Timed.acknowledged {accepted : Bool} (timed : Timed mn)
    (regular : ∀ bue, mn.findBU dest = some bue → ba.sequence.setWidth 32 = bue.sequence →
      ba.status = .seqOutOfWindow → bue.state = 0)
    (acknowledges : mn.processBA ba dest = .ok (accepted, mn')) (distinct : mn'.bul.Distinct) : Timed mn' := by
  rcases processBA_cases acknowledges with ⟨-, -, -, -, rfl⟩ | ⟨stopped, stops, -, rest⟩
  · exact timed
  · have bul := (stopTmr_ok stops).1
    have waits : ∀ other, stopped.Waiting other ↔ mn.Waiting other := by
      intro other
      unfold Waiting findBU
      rw [bul]
    obtain ⟨absent, rfl⟩ | ⟨bue, found, latest, ⟨bue', updated, rfl⟩ | ⟨-, rfl⟩⟩ := rest
    · refine timed.stopped stops rfl distinct ?_
      intro other
      rw [waits]
      refine (and_iff_right_of_imp ?_).symm
      rintro ⟨bue, found, -⟩ rfl
      rw [absent] at found
      cases found
    · refine timed.stopped stops rfl distinct ?_
      intro other
      rw [← waits]
      refine waiting_modifyBU_done ?_ ?_
      · exact fun _ _ => (acknowledged_addr updated).trans (BindingUpdateList.findBU_addr found)
      · exact fun _ _ => acknowledged_state updated (regular bue found latest)
    · refine timed.stopped stops rfl distinct ?_
      intro other
      rw [← waits]
      exact waiting_removeBU (bul ▸ timed.distinct)

theorem expire_state (kept : BindingUpdateList.expire mipv6Period bue = some bue') : bue'.state = bue.state := by
  unfold BindingUpdateList.expire at kept
  split at kept
  · cases kept
    rfl
  · cases kept

theorem Timed.step {e : MobileNodeEvent} (timed : Timed mn) (regular : mn.Regular e)
    (steps : mn.step e = .ok mn') : Timed mn' := by
  have distinct := distinct_step timed.distinct steps
  cases e with
  | wait now =>
      cases steps
      exact timed.of_same distinct rfl fun _ => Iff.rfl
  | bindings bc =>
      cases steps
      exact timed.of_same distinct rfl fun _ => Iff.rfl
  | routability dest homeNI careOfNI hoti coti =>
      cases steps
      exact timed.of_same distinct rfl fun _ =>
        waiting_modifyBU_same (fun _ same => same) fun _ _ => Iff.rfl
  | sendBU dest coa hoa lifetime homeReg mapReg timestamp =>
      obtain ⟨sent, sends⟩ := snd_map_eq_ok steps
      rcases sendBU_cases sends with ⟨-, rfl⟩ | ⟨dgram, old, new, -, sending⟩
      · exact timed
      · exact timed.sent regular.1 regular.2 sending
  | retransmitBU i =>
      obtain ⟨sent, fires⟩ := snd_map_eq_ok steps
      exact timed.fired regular fires distinct
  | processBA ba srcAddress =>
      obtain ⟨accepted, acknowledges⟩ := snd_map_eq_ok steps
      exact timed.acknowledged regular acknowledges distinct
  | processBE srcAddress =>
      cases steps
      refine timed.of_same distinct rfl ?_
      intro other
      refine (waiting_removeBU timed.distinct).trans (and_iff_right_of_imp ?_)
      rintro waits rfl
      exact regular waits
  | expireLifetimes =>
      cases steps
      refine timed.of_same distinct rfl ?_
      intro other
      change (∃ bue, BindingUpdateList.findBU (mn.bul.expireLifetimes mipv6Period) other = some bue ∧
        bue.state ≠ 0) ↔ _
      rw [timed.distinct.findBU_expireLifetimes]
      constructor
      · rintro ⟨bue', found, some⟩
        obtain ⟨bue, before, kept⟩ := Option.bind_eq_some_iff.mp found
        rw [expire_state kept] at some
        exact ⟨bue, before, some⟩
      · rintro ⟨bue, before, some⟩
        cases kept : BindingUpdateList.expire mipv6Period bue with
        | none => exact absurd (regular other bue before kept) some
        | some bue' =>
            exact ⟨bue', Option.bind_eq_some_iff.mpr ⟨bue, before, kept⟩, (expire_state kept).symm ▸ some⟩

/-- The entry that the assertion asks for is there. -/
theorem Timed.asserted (timed : Timed mn) : mn.retransmitBU i ≠ .error .assertFailed := by
  unfold retransmitBU
  intro fails
  rcases Exec.bind_eq_error.mp fails with dangling | ⟨tmr, at_i, rest⟩
  · cases place : mn.buRetranTmrs[i]? with
    | none =>
        rw [place] at dangling
        cases dangling
    | some tmr =>
        rw [place] at dangling
        cases dangling
  · have place := (deref_eq_ok _ _ _).mp at_i
    obtain ⟨bue, found, -⟩ :=
      (timed.waiting _).mp (List.mem_of_getElem? (Timed.place place))
    dsimp only at rest
    split at rest
    · cases rest
    split at rest
    · rw [found] at rest
      cases rest
    · rw [assert_pos (by rw [found]; rfl), ok_bind] at rest
      rcases Exec.bind_eq_error.mp rest with missing | ⟨ha, -, rest⟩
      · change Exec.deref .nullDeref mn.primaryHA = _ at missing
        cases ha : mn.primaryHA with
        | none =>
            rw [ha] at missing
            cases missing
        | some ha' =>
            rw [ha] at missing
            cases missing
      · cases rest

/-- While every step is regular, one timer runs for each destination that has not acknowledged. -/
theorem bu_retransmission {start : MobileNode} {es : List MobileNodeEvent} (bul : start.bul = [])
    (timers : start.buRetranTmrs = []) (runs : Runs MobileNode.step Regular start es mn) :
    (mn.buRetranTmrs.map (·.dgram.destAddress)).Nodup ∧
      (∀ dest, (∃ tmr ∈ mn.buRetranTmrs, tmr.dgram.destAddress = dest) ↔
        ∃ bue, mn.findBU dest = some bue ∧ bue.state ≠ 0) ∧
      ∀ i, mn.retransmitBU i ≠ .error .assertFailed := by
  have empty : Timed start := by
    refine ⟨?_, ?_, ?_⟩
    · rw [bul]
      exact List.nodup_nil
    · rw [dests, timers]
      exact List.nodup_nil
    · intro dest
      rw [dests, timers, Waiting, findBU, bul]
      simp
  have timed : Timed mn := runs.invariant Timed (fun _ _ _ => Timed.step) empty
  refine ⟨timed.single, ?_, fun i => timed.asserted⟩
  intro dest
  rw [← List.mem_map]
  exact timed.waiting dest

/-- A registration is sent and acknowledged. -/
theorem bu_retransmission_example :
    ∃ mn, Runs MobileNode.step Regular (create ⟨1, 0, 0, 1⟩ ⟨1, 0, 0, 2⟩)
        [.sendBU ⟨1, 0, 0, 2⟩ ⟨2, 0, 0, 1⟩ ⟨1, 0, 0, 1⟩ 10 true false 0] mn ∧
      ∃ tmr ∈ mn.buRetranTmrs, tmr.dgram.destAddress = ⟨1, 0, 0, 2⟩ := by
  obtain ⟨mn, bue, sends, found, some⟩ :
      ∃ mn bue, (create ⟨1, 0, 0, 1⟩ ⟨1, 0, 0, 2⟩).step
          (.sendBU ⟨1, 0, 0, 2⟩ ⟨2, 0, 0, 1⟩ ⟨1, 0, 0, 1⟩ 10 true false 0) = .ok mn ∧
        mn.findBU ⟨1, 0, 0, 2⟩ = some bue ∧ bue.state ≠ 0 :=
    ⟨_, _, rfl, rfl, by decide⟩
  have regular : (create ⟨1, 0, 0, 1⟩ ⟨1, 0, 0, 2⟩).Regular
      (.sendBU ⟨1, 0, 0, 2⟩ ⟨2, 0, 0, 1⟩ ⟨1, 0, 0, 1⟩ 10 true false 0) :=
    ⟨rfl, fun _ none => nomatch none⟩
  have runs := Runs.cons regular sends (.nil mn)
  exact ⟨mn, runs, ((bu_retransmission rfl rfl runs).2.1 _).mpr ⟨bue, found, some⟩⟩

/-- A Binding Error removes the entry when the timer has its last timeout, and the timer fires. -/
theorem binding_error_asserts :
    Except.map (fun _ => ()) (run MobileNode.step (create ⟨1, 0, 0, 1⟩ ⟨1, 0, 0, 2⟩)
      [.sendBU ⟨1, 0, 0, 2⟩ ⟨2, 0, 0, 1⟩ ⟨1, 0, 0, 1⟩ 10 true false 0, .retransmitBU 0,
        .retransmitBU 0, .retransmitBU 0, .retransmitBU 0, .retransmitBU 0,
        .processBE ⟨1, 0, 0, 2⟩, .retransmitBU 0]) = .error .assertFailed := by
  decide +kernel

end MobileNode

end IPv6Suite
