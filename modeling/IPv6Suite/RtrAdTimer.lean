import IPv6Suite.NDStateRouter
import Mathlib.Tactic.Linarith

namespace IPv6Suite

open Lib

/-- The interface of an advertisement to all nodes -/
def RtrAdOutput.multicast : RtrAdOutput → Option Nat
  | .outputOut ifIndex _ => some ifIndex
  | .sendDirect .. => none

/-- The advertising interface of a valid solicitation -/
def NDStateRouter.solicited (s : NDStateRouter) : NDStateRouter.Event → Option Nat
  | .processRtrSol rs _ _ => if valRtrSol rs then (s.advTmr rs.inputPort).map fun _ => rs.inputPort else none
  | _ => none

namespace NDStateRouter

variable {s s' s₀ : NDStateRouter} {i ifIndex : Nat} {delay : SimTime} {tmr : RtrTimer}

/-- When the timer of an interface was scheduled, and when it is due -/
def timerOf (s : NDStateRouter) (i : Nat) : Option (SimTime × SimTime) :=
  ((s.advTmr i).bind (·.msg)).map fun msg => (msg.sendingTime, msg.arrivalTime)

/-- The least time between advertisements: `MIN_DELAY_BETWEEN_RAS`, or the interval of the interface if that
is smaller -/
def advGap (s : NDStateRouter) (i : Nat) : SimTime :=
  min s.minDelayBetweenRas (((s.interfaces[i]?).map (·.rtrVar.minRtrAdvInt)).getD 0)

/-- The timer of the interface is due within the delay, or was scheduled longer than
`MIN_DELAY_BETWEEN_RAS` ago, or is due no sooner than that and the delay after it was scheduled. -/
def Punctual (s : NDStateRouter) : Event → Prop
  | .processRtrSol rs _ delay => valRtrSol rs = true → ∀ p ∈ s.timerOf rs.inputPort,
      p.2 ≤ s.now + delay ∨ p.1 < s.now - s.minDelayBetweenRas ∨ p.1 + s.minDelayBetweenRas + delay ≤ p.2
  | _ => True

instance (s : NDStateRouter) : (e : Event) → Decidable (s.Punctual e)
  | .processRtrSol _ _ _ => inferInstanceAs (Decidable (_ = true → ∀ p ∈ _, _))
  | .wait _ | .dupAddrDetSuccess _ _ _ | .expire _ _ => isTrue trivial

/-- No advertisement that was scheduled is put off. -/
def Undelayed (s s' : NDStateRouter) : Prop :=
  ∀ i, ∀ p ∈ s.timerOf i, ∀ p' ∈ s'.timerOf i, p'.2 ≤ p.2

/-- What is configured does not change, and every timer runs on an interface that was initialised. -/
structure Ready (s₀ s : NDStateRouter) : Prop where
  support : s.mobilitySupport = s₀.mobilitySupport
  settings : s.interfaces.map (fun ie => (ie.rtrVar.minRtrAdvInt, ie.rtrVar.fastRA)) =
    s₀.interfaces.map fun ie => (ie.rtrVar.minRtrAdvInt, ie.rtrVar.fastRA)
  timers : ∀ i, ∀ tmr ∈ s.advTmr i, tmr.msg ≠ none ∧ tmr.maxInitRtrInterval = maxInitialRtrAdvertInterval ∧
    ∀ ie ∈ s.interfaces[i]?, ie.initStarted = true

theorem ready_create (mobilitySupport : Bool) (vars : List RouterVariables) :
    Ready (.create mobilitySupport vars) (.create mobilitySupport vars) :=
  ⟨rfl, rfl, nofun⟩

theorem Ready.minDelay (ready : Ready s₀ s) : s.minDelayBetweenRas = s₀.minDelayBetweenRas := by
  unfold minDelayBetweenRas
  rw [ready.support]

theorem Ready.setting (ready : Ready s₀ s) (i : Nat) :
    (s.interfaces[i]?).map (fun ie => (ie.rtrVar.minRtrAdvInt, ie.rtrVar.fastRA)) =
      (s₀.interfaces[i]?).map fun ie => (ie.rtrVar.minRtrAdvInt, ie.rtrVar.fastRA) := by
  rw [← List.getElem?_map, ← List.getElem?_map, ready.settings]

theorem Ready.advGap (ready : Ready s₀ s) (i : Nat) : s.advGap i = s₀.advGap i := by
  have same := congrArg (Option.map Prod.fst) (ready.setting i)
  rw [Option.map_map, Option.map_map] at same
  unfold NDStateRouter.advGap
  rw [ready.minDelay]
  exact congrArg (fun interval => min _ (Option.getD interval 0)) same

theorem minDelay_le (s : NDStateRouter) : s.minDelayBetweenRas ≤ maxInitialRtrAdvertInterval := by
  unfold minDelayBetweenRas maxInitialRtrAdvertInterval
  split <;> norm_num

variable {ie : AdvInterface}

theorem advGap_le (located : s.interfaces[i]? = some ie) (drawn : Drawn ie.rtrVar delay)
    (limit : tmr.maxInitRtrInterval = maxInitialRtrAdvertInterval) : s.advGap i ≤ tmr.nextDelay delay := by
  unfold advGap RtrTimer.nextDelay
  rw [located]
  split
  · rw [limit]
    exact (min_le_left _ _).trans s.minDelay_le
  · exact (min_le_right _ _).trans drawn.1

theorem scheduleMsg_ok {now time : SimTime} {msg : CCallbackMessage} (schedules : scheduleMsg now time = .ok msg) :
    now ≤ time ∧ msg = ⟨now, time⟩ := by
  unfold scheduleMsg at schedules
  split at schedules
  · cases schedules
  · rename_i ahead
    cases schedules
    exact ⟨not_lt.mp ahead, rfl⟩

def resetFastRA (s : NDStateRouter) (ifIndex : Nat) : NDStateRouter :=
  s.modifyInterface ifIndex fun ie => { ie with rtrVar := ie.rtrVar.resetFastRA }

def addTmr (s : NDStateRouter) (sent : RtrTimer) : NDStateRouter := { s with advTmrs := s.advTmrs ++ [sent] }

variable {sent : RtrTimer}

theorem sendUnsolRtrAd_ok {output : RtrAdOutput}
    (sends : s.sendUnsolRtrAd tmr delay = .ok (output, sent, s')) :
    (∃ ie, s.interfaces[tmr.ifIndex]? = some ie) ∧ s.now ≤ s.now + tmr.nextDelay delay ∧
      output.multicast = some tmr.ifIndex ∧
      sent = { tmr.countAd with msg := some ⟨s.now, s.now + tmr.nextDelay delay⟩ } ∧
      s' = match tmr.msg with
        | none => (s.resetFastRA tmr.ifIndex).addTmr sent
        | some _ => s.resetFastRA tmr.ifIndex := by
  obtain ⟨srcAddress, _, sends⟩ := bind_eq_ok.mp sends
  obtain ⟨ie, located, sends⟩ := bind_eq_ok.mp sends
  obtain ⟨_, _, sends⟩ := bind_eq_ok.mp sends
  obtain ⟨msg, schedules, sends⟩ := bind_eq_ok.mp sends
  obtain ⟨ahead, rfl⟩ := scheduleMsg_ok schedules
  rw [deref_eq_ok] at located
  cases unset : tmr.msg with
  | none =>
      rw [unset] at sends
      cases sends
      exact ⟨⟨ie, located⟩, ahead, rfl, rfl, rfl⟩
  | some msg =>
      rw [unset] at sends
      cases sends
      exact ⟨⟨ie, located⟩, ahead, rfl, rfl, rfl⟩

@[simp] theorem countAd_ifIndex (tmr : RtrTimer) : tmr.countAd.ifIndex = tmr.ifIndex := by
  unfold RtrTimer.countAd
  split <;> rfl

@[simp] theorem countAd_maxInitRtrInterval (tmr : RtrTimer) :
    tmr.countAd.maxInitRtrInterval = tmr.maxInitRtrInterval := by
  unfold RtrTimer.countAd
  split <;> rfl

@[simp] theorem resetFastRA_minRtrAdvInt (rtrVar : RouterVariables) :
    rtrVar.resetFastRA.minRtrAdvInt = rtrVar.minRtrAdvInt := by
  unfold RouterVariables.resetFastRA
  split <;> rfl

@[simp] theorem resetFastRA_fastRA (rtrVar : RouterVariables) : rtrVar.resetFastRA.fastRA = rtrVar.fastRA := by
  unfold RouterVariables.resetFastRA
  split <;> rfl

/-! ### The timers -/

theorem timerOf_congr (same : s'.advTmr i = s.advTmr i) : s'.timerOf i = s.timerOf i := by
  unfold timerOf
  rw [same]

theorem timerOf_eq {msg : CCallbackMessage} (found : s.advTmr i = some tmr) (set : tmr.msg = some msg) :
    s.timerOf i = some (msg.sendingTime, msg.arrivalTime) := by
  unfold timerOf
  rw [found, Option.bind_some, set]
  rfl

theorem advTmr_ifIndex (found : s.advTmr i = some tmr) : tmr.ifIndex = i := KeyList.find_key found

section Modify

variable {f : RtrTimer → RtrTimer} (keeps : ∀ tmr : RtrTimer, tmr.ifIndex = ifIndex → (f tmr).ifIndex = ifIndex)

include keeps

theorem advTmr_modifyTmr_same : (s.modifyTmr ifIndex f).advTmr ifIndex = (s.advTmr ifIndex).map f :=
  KeyList.find_modify_same keeps

theorem advTmr_modifyTmr_ne (differs : i ≠ ifIndex) : (s.modifyTmr ifIndex f).advTmr i = s.advTmr i :=
  KeyList.find_modify_ne keeps (Ne.symm differs)

theorem Ready.modifyTmr (ready : Ready s₀ s) (sets : ∀ tmr : RtrTimer, (f tmr).msg ≠ none)
    (limits : ∀ tmr ∈ s.advTmr ifIndex, (f tmr).maxInitRtrInterval = tmr.maxInitRtrInterval) :
    Ready s₀ (s.modifyTmr ifIndex f) := by
  refine ⟨ready.support, ready.settings, fun i tmr found => ?_⟩
  by_cases same : i = ifIndex
  · subst same
    rw [Option.mem_def, advTmr_modifyTmr_same keeps, Option.map_eq_some_iff] at found
    obtain ⟨before, found, rfl⟩ := found
    obtain ⟨_, limit, started⟩ := ready.timers i before found
    exact ⟨sets before, (limits before found).trans limit, started⟩
  · rw [advTmr_modifyTmr_ne keeps same] at found
    exact ready.timers i tmr found

end Modify

theorem Ready.modifyInterface {f : AdvInterface → AdvInterface} (ready : Ready s₀ s) (ifIndex : Nat)
    (keeps : ∀ ie, ((f ie).rtrVar.minRtrAdvInt, (f ie).rtrVar.fastRA) = (ie.rtrVar.minRtrAdvInt, ie.rtrVar.fastRA))
    (starts : ∀ ie, ie.initStarted = true → (f ie).initStarted = true) :
    Ready s₀ (s.modifyInterface ifIndex f) := by
  refine ⟨ready.support, ?_, fun i tmr found => ?_⟩
  · rw [← ready.settings]
    exact Lists.map_modify_of_same keeps _ _
  · obtain ⟨set, limit, started⟩ := ready.timers i tmr found
    refine ⟨set, limit, fun ie here => ?_⟩
    change (s.interfaces.modify ifIndex f)[i]? = some ie at here
    rw [List.getElem?_modify] at here
    obtain ⟨before, located, rfl⟩ := Option.map_eq_some_iff.mp here
    split
    · exact starts before (started before located)
    · exact started before located

theorem Ready.resetFastRA (ready : Ready s₀ s) (ifIndex : Nat) : Ready s₀ (s.resetFastRA ifIndex) := by
  refine ready.modifyInterface ifIndex (fun ie => ?_) fun _ started => started
  rw [resetFastRA_minRtrAdvInt, resetFastRA_fastRA]

theorem advTmr_addTmr (absent : s.advTmr ifIndex = none) (own : sent.ifIndex = ifIndex) (i : Nat) :
    (s.addTmr sent).advTmr i = if i = ifIndex then some sent else s.advTmr i := by
  have appended : (s.addTmr sent).advTmr i = (s.advTmr i).or ([sent].find? fun tmr => tmr.ifIndex = i) :=
    List.find?_append
  rw [appended, List.find?_singleton, own]
  by_cases same : i = ifIndex
  · rw [same, absent, Option.none_or, if_pos (decide_eq_true rfl), if_pos rfl]
  · rw [if_neg (mt of_decide_eq_true (Ne.symm same)), Option.or_none, if_neg same]

theorem Ready.addTmr (ready : Ready s₀ s) (absent : s.advTmr ifIndex = none)
    (own : sent.ifIndex = ifIndex) (set : sent.msg ≠ none)
    (limit : sent.maxInitRtrInterval = maxInitialRtrAdvertInterval) :
    Ready s₀ ((s.addTmr sent).modifyInterface ifIndex fun ie => { ie with initStarted := true }) := by
  have changed := ready.modifyInterface (f := fun ie => { ie with initStarted := true }) ifIndex
    (fun _ => rfl) fun _ _ => rfl
  refine ⟨ready.support, changed.settings, fun i tmr found => ?_⟩
  change (s.addTmr sent).advTmr i = some tmr at found
  rw [advTmr_addTmr absent own] at found
  split at found
  · rename_i same
    cases found
    refine ⟨set, limit, fun ie here => ?_⟩
    change (s.interfaces.modify ifIndex fun ie => { ie with initStarted := true })[i]? = some ie at here
    rw [same, List.getElem?_modify_eq] at here
    obtain ⟨before, _, rfl⟩ := Option.map_eq_some_iff.mp here
    rfl
  · exact changed.timers i tmr found

/-! ### What a step does -/

/-- The time that a solicitation moves the timer to, if it does -/
def limited (s : NDStateRouter) (delay : SimTime) (p : SimTime × SimTime) : Option SimTime :=
  if p.2 ≤ s.now + delay then none
  else if s.now - s.minDelayBetweenRas ≤ p.1 then some (p.1 + s.minDelayBetweenRas + delay)
  else some (s.now + delay)

variable {p : SimTime × SimTime}

theorem limited_ahead (nonneg : 0 ≤ delay) :
    ∀ due ∈ s.limited delay p, s.now ≤ due ∧ p.1 + s.minDelayBetweenRas ≤ due := by
  intro due moved
  unfold limited at moved
  split at moved
  · cases moved
  · split at moved
    · cases moved
      constructor <;> linarith
    · cases moved
      constructor <;> linarith

theorem limited_le_iff : (s.limited delay p).getD p.2 ≤ p.2 ↔
    p.2 ≤ s.now + delay ∨ p.1 < s.now - s.minDelayBetweenRas ∨ p.1 + s.minDelayBetweenRas + delay ≤ p.2 := by
  unfold limited
  split
  · rename_i soon
    exact ⟨fun _ => Or.inl soon, fun _ => le_rfl⟩
  · rename_i late
    split
    · rename_i recent
      rw [Option.getD_some]
      exact ⟨fun inside => Or.inr (Or.inr inside), fun cases => (cases.resolve_left late).resolve_left (not_lt.mpr recent)⟩
    · rename_i rested
      rw [Option.getD_some]
      exact ⟨fun _ => Or.inr (Or.inl (not_le.mp rested)), fun _ => (not_le.mp late).le⟩

theorem limited_soon (past : p.1 ≤ s.now) (short : delay ≤ maxRaDelayTime) :
    (s.limited delay p).getD p.2 ≤ s.now + (s.minDelayBetweenRas + maxRaDelayTime) := by
  have positive : 0 ≤ s.minDelayBetweenRas := by
    unfold minDelayBetweenRas
    split <;> norm_num
  unfold limited
  split
  · rw [Option.getD_none]
    linarith
  · split
    · rw [Option.getD_some]
      linarith
    · rw [Option.getD_some]
      linarith

theorem limitRtrAd_ok {msg msg' : CCallbackMessage} (limits : s.limitRtrAd msg delay = .ok msg') :
    (msg'.sendingTime, msg'.arrivalTime) =
      ((s.limited delay (msg.sendingTime, msg.arrivalTime)).map fun due => (s.now, due)).getD
        (msg.sendingTime, msg.arrivalTime) := by
  unfold limitRtrAd at limits
  unfold limited
  split at limits
  · rename_i soon
    cases limits
    rw [if_pos soon]
    rfl
  · rename_i late
    rw [if_neg late]
    split at limits
    · rename_i recent
      obtain ⟨_, rfl⟩ := scheduleMsg_ok limits
      rw [if_pos recent, Option.map_some, Option.getD_some, Prod.mk.injEq]
      refine ⟨rfl, ?_⟩
      dsimp only
      linarith
    · rename_i rested
      obtain ⟨_, rfl⟩ := scheduleMsg_ok limits
      rw [if_neg rested]
      rfl

/-- What a step does: nothing to the timers, or it sends an advertisement on an interface and sets its timer,
or it takes a solicitation and may move the timer of its interface. -/
inductive Moves (s₀ s s' : NDStateRouter) : List Nat → Option Nat → Prop
  | idle (now : s'.now = s.now) (same : ∀ i, s'.timerOf i = s.timerOf i) : Moves s₀ s s' [] none
  | wait (forward : s.now ≤ s'.now) (inside : ∀ i, ∀ p ∈ s.timerOf i, s'.now ≤ p.2)
      (same : ∀ i, s'.timerOf i = s.timerOf i) : Moves s₀ s s' [] none
  | fire (j : Nat) (due : SimTime) (now : s'.now = s.now) (reached : ∀ p ∈ s.timerOf j, p.2 = s.now)
      (ahead : s.now ≤ due) (far : s.now + s₀.advGap j ≤ due) (set : s'.timerOf j = some (s.now, due))
      (others : ∀ i, i ≠ j → s'.timerOf i = s.timerOf i) : Moves s₀ s s' [j] none
  | ask (j : Nat) (delay : SimTime) (p : SimTime × SimTime) (now : s'.now = s.now)
      (drawn : 0 ≤ delay ∧ delay ≤ maxRaDelayTime) (scheduled : s.timerOf j = some p)
      (set : s'.timerOf j = some (((s.limited delay p).map fun due => (s.now, due)).getD p))
      (others : ∀ i, i ≠ j → s'.timerOf i = s.timerOf i) : Moves s₀ s s' [] (some j)

/-- The interfaces do not matter. -/
theorem Moves.congr {t : NDStateRouter} {sent : List Nat} (moves : Moves s₀ s s' sent none) (now : t.now = s.now)
    (same : ∀ i, t.timerOf i = s.timerOf i) : Moves s₀ t s' sent none := by
  cases moves with
  | idle now' same' => exact .idle (now'.trans now.symm) fun i => (same' i).trans (same i).symm
  | wait forward inside same' =>
      refine .wait (now ▸ forward) (fun i p scheduled => inside i p ?_) fun i => (same' i).trans (same i).symm
      rw [← same]
      exact scheduled
  | fire j due now' reached ahead far set others =>
      refine .fire j due (now'.trans now.symm) (fun p scheduled => ?_) (now ▸ ahead) (now ▸ far) (now ▸ set)
        fun i differs => (others i differs).trans (same i).symm
      rw [same] at scheduled
      exact (reached p scheduled).trans now.symm

variable {outputs : List RtrAdOutput}

theorem expire_moves (ready : Ready s₀ s) (admits : s.Admits (.expire ifIndex delay))
    (expires : s.expire ifIndex delay = .ok (outputs, s')) :
    Ready s₀ s' ∧ Moves s₀ s s' (outputs.filterMap (·.multicast)) none := by
  obtain ⟨tmr, found, expires⟩ := bind_eq_ok.mp expires
  obtain ⟨⟨output, sent, routed⟩, sends, ends⟩ := bind_eq_ok.mp expires
  obtain ⟨due, drawn⟩ := admits
  rw [deref_eq_ok] at found
  have own := advTmr_ifIndex found
  obtain ⟨set, limit, started⟩ := ready.timers ifIndex tmr found
  obtain ⟨msg, scheduled⟩ := Option.ne_none_iff_exists'.mp set
  obtain ⟨⟨ie, located⟩, ahead, multicast, sent_eq, rfl⟩ := sendUnsolRtrAd_ok sends
  rw [own] at located multicast
  rw [scheduled, own] at ends
  cases ends
  have keeps : ∀ other : RtrTimer, other.ifIndex = ifIndex → sent.ifIndex = ifIndex := fun _ _ => by
    rw [sent_eq]
    exact (countAd_ifIndex tmr).trans own
  rw [List.filterMap_cons_some multicast, List.filterMap_nil]
  refine ⟨(ready.resetFastRA ifIndex).modifyTmr keeps ?_ ?_,
    .fire ifIndex (s.now + tmr.nextDelay delay) rfl ?_ ahead ?_ ?_ fun i differs => ?_⟩
  · intro _
    rw [sent_eq]
    exact Option.some_ne_none _
  · intro before here
    cases (found.symm.trans here)
    rw [sent_eq]
    exact countAd_maxInitRtrInterval tmr
  · intro p timer
    cases (timerOf_eq found scheduled).symm.trans timer
    exact due tmr found msg scheduled
  · rw [← ready.advGap]
    exact add_le_add_right (advGap_le located (drawn ie located) limit) s.now
  · have set := advTmr_modifyTmr_same (s := s.resetFastRA ifIndex) keeps
    have before : (s.resetFastRA ifIndex).advTmr ifIndex = some tmr := found
    rw [before, Option.map_some] at set
    exact timerOf_eq set (congrArg RtrTimer.msg sent_eq)
  · exact timerOf_congr (advTmr_modifyTmr_ne keeps differs)

theorem initialiseInterface_moves (ready : Ready s₀ s)
    (located : s.interfaces[ifIndex]? = some ie) (fresh : ie.initStarted = false) (drawn : Drawn ie.rtrVar delay)
    (initialises : s.initialiseInterface ifIndex delay = .ok (outputs, s')) :
    Ready s₀ (s'.modifyInterface ifIndex fun ie => { ie with initStarted := true }) ∧
      Moves s₀ s (s'.modifyInterface ifIndex fun ie => { ie with initStarted := true })
        (outputs.filterMap (·.multicast)) none := by
  have absent : s.advTmr ifIndex = none := by
    cases found : s.advTmr ifIndex with
    | none => rfl
    | some tmr =>
        have started := (ready.timers ifIndex tmr found).2.2 ie located
        rw [fresh] at started
        cases started
  obtain ⟨ie', here, initialises⟩ := bind_eq_ok.mp initialises
  rw [deref_eq_ok, located, Option.some.injEq] at here
  subst here
  split at initialises
  · obtain ⟨⟨output, sent, routed⟩, sends, ends⟩ := bind_eq_ok.mp initialises
    obtain ⟨_, ahead, multicast, sent_eq, rfl⟩ := sendUnsolRtrAd_ok sends
    cases ends
    have own : sent.ifIndex = ifIndex := by
      rw [sent_eq]
      exact countAd_ifIndex _
    have limit : sent.maxInitRtrInterval = maxInitialRtrAdvertInterval := by
      rw [sent_eq]
      exact countAd_maxInitRtrInterval _
    have set : sent.msg = some ⟨s.now, s.now + _⟩ := congrArg RtrTimer.msg sent_eq
    have finds := advTmr_addTmr (s := s.resetFastRA ifIndex) absent own
    rw [List.filterMap_cons_some multicast, List.filterMap_nil]
    refine ⟨(ready.resetFastRA ifIndex).addTmr absent own (set ▸ Option.some_ne_none _) limit,
      .fire ifIndex _ rfl ?_ ahead ?_ (timerOf_eq ((finds ifIndex).trans (if_pos rfl)) set) fun i differs => ?_⟩
    · intro p timer
      unfold timerOf at timer
      rw [absent] at timer
      cases timer
    · rw [← ready.advGap]
      exact add_le_add_right (advGap_le located drawn rfl) s.now
    · exact timerOf_congr ((finds i).trans (if_neg differs))
  · cases initialises
    rw [List.filterMap_nil]
    exact ⟨ready.modifyInterface ifIndex (fun _ => rfl) fun _ _ => rfl, .idle rfl fun _ => rfl⟩

theorem Ready.off (ready : Ready s₀ s) (off : ∀ ie ∈ s₀.interfaces, ie.rtrVar.fastRA = false)
    (located : s.interfaces[i]? = some ie) : ie.rtrVar.fastRA = false := by
  have same := ready.setting i
  rw [located, Option.map_some] at same
  obtain ⟨before, here, same⟩ := Option.map_eq_some_iff.mp same.symm
  rw [← (Prod.mk.inj same).2]
  exact off before (List.mem_of_getElem? here)

theorem processRtrSol_moves {rs : RtrSol} {ngbr : Option NeighbourEntry}
    (ready : Ready s₀ s) (off : ∀ ie ∈ s₀.interfaces, ie.rtrVar.fastRA = false)
    (steps : s.step (.processRtrSol rs ngbr delay) = .ok (outputs, s')) :
    Ready s₀ s' ∧ outputs = [] ∧ s'.now = s.now ∧ ((valRtrSol rs = false ∨ s.advTmr rs.inputPort = none) ∧ s' = s ∨
        ∃ p, valRtrSol rs = true ∧ s.timerOf rs.inputPort = some p ∧
          s'.timerOf rs.inputPort = some (((s.limited delay p).map fun due => (s.now, due)).getD p) ∧
          ∀ i, i ≠ rs.inputPort → s'.timerOf i = s.timerOf i) := by
  obtain ⟨⟨outputs', ngbr', next⟩, processes, ends⟩ := bind_eq_ok.mp steps
  cases ends
  unfold processRtrSol at processes
  split at processes
  · rename_i valid
    unfold sendRtrAd at processes
    cases found : s.advTmr rs.inputPort with
    | none =>
        rw [found] at processes
        obtain ⟨ie, _, processes⟩ := bind_eq_ok.mp processes
        split at processes
        · cases processes
        · cases processes
          exact ⟨ready, rfl, rfl, Or.inl ⟨Or.inr rfl, rfl⟩⟩
    | some tmr =>
        rw [found] at processes
        obtain ⟨msg, scheduled, processes⟩ := bind_eq_ok.mp processes
        obtain ⟨ie, located, processes⟩ := bind_eq_ok.mp processes
        rw [deref_eq_ok] at scheduled located
        have slow := ready.off off located
        rw [if_neg (by rw [slow]; exact fun fast => Bool.false_ne_true fast.1)] at processes
        obtain ⟨msg', limits, processes⟩ := bind_eq_ok.mp processes
        obtain ⟨updated, _, ends⟩ := bind_eq_ok.mp processes
        cases ends
        rw [advTmr_ifIndex found]
        have keeps : ∀ tmr : RtrTimer, tmr.ifIndex = rs.inputPort →
            ({ tmr with msg := some msg' } : RtrTimer).ifIndex = rs.inputPort := fun _ same => same
        have set := advTmr_modifyTmr_same (s := s) keeps
        rw [found, Option.map_some] at set
        refine ⟨ready.modifyTmr keeps (fun _ => Option.some_ne_none _) fun _ _ => rfl, rfl, rfl,
          Or.inr ⟨_, valid, timerOf_eq found scheduled, ?_,
            fun i differs => timerOf_congr (advTmr_modifyTmr_ne keeps differs)⟩⟩
        rw [timerOf_eq set rfl]
        exact congrArg some (limitRtrAd_ok limits)
  · rename_i invalid
    cases processes
    exact ⟨ready, rfl, rfl, Or.inl ⟨Or.inl (Bool.not_eq_true _ ▸ invalid), rfl⟩⟩

theorem timerOf_eq_none (ready : Ready s₀ s) : s.timerOf i = none ↔ s.advTmr i = none := by
  unfold timerOf
  cases found : s.advTmr i with
  | none => exact ⟨fun _ => rfl, fun _ => rfl⟩
  | some tmr =>
      rw [Option.bind_some, Option.map_eq_none_iff]
      exact ⟨fun unset => absurd unset (ready.timers i tmr found).1, nofun⟩

/-- Exactly when a solicitation puts off no advertisement -/
theorem undelayed_iff {rs : RtrSol} {ngbr : Option NeighbourEntry}
    (ready : Ready s₀ s) (off : ∀ ie ∈ s₀.interfaces, ie.rtrVar.fastRA = false)
    (steps : s.step (.processRtrSol rs ngbr delay) = .ok (outputs, s')) :
    s.Undelayed s' ↔ s.Punctual (.processRtrSol rs ngbr delay) := by
  obtain ⟨_, _, _, ⟨untaken, rfl⟩ | ⟨p, valid, scheduled, set, others⟩⟩ := processRtrSol_moves ready off steps
  · refine ⟨fun _ valid p scheduled => ?_, fun _ i p scheduled p' set => ?_⟩
    · rcases untaken with invalid | missing
      · rw [invalid] at valid
        cases valid
      · rw [(timerOf_eq_none ready).mpr missing] at scheduled
        cases scheduled
    · cases scheduled.symm.trans set
      exact le_rfl
  · have moved : (((s.limited delay p).map fun due => (s.now, due)).getD p).2 = (s.limited delay p).getD p.2 := by
      cases s.limited delay p <;> rfl
    constructor
    · intro undelayed _ p' scheduled'
      cases scheduled.symm.trans scheduled'
      have kept := undelayed rs.inputPort p scheduled _ set
      rw [moved] at kept
      exact limited_le_iff.mp kept
    · intro punctual i q scheduled' q' set'
      by_cases same : i = rs.inputPort
      · subst same
        cases scheduled.symm.trans scheduled'
        cases set.symm.trans set'
        rw [moved]
        exact limited_le_iff.mpr (punctual valid p scheduled)
      · rw [others i same] at set'
        cases scheduled'.symm.trans set'
        exact le_rfl

theorem step_moves {e : Event} (ready : Ready s₀ s)
    (off : ∀ ie ∈ s₀.interfaces, ie.rtrVar.fastRA = false) (admits : s.Admits e)
    (steps : s.step e = .ok (outputs, s')) :
    Ready s₀ s' ∧ Moves s₀ s s' (outputs.filterMap (·.multicast)) (s.solicited e) := by
  cases e with
  | wait now =>
      cases steps
      refine ⟨⟨ready.support, ready.settings, ready.timers⟩, .wait admits.1 (fun i p scheduled => ?_) fun _ => rfl⟩
      obtain ⟨msg, found, rfl⟩ := Option.map_eq_some_iff.mp scheduled
      obtain ⟨tmr, found, set⟩ := Option.bind_eq_some_iff.mp found
      exact admits.2 tmr (KeyList.mem_of_find found) msg set
  | dupAddrDetSuccess ifIndex addr delay =>
      obtain ⟨ie, located, steps⟩ := bind_eq_ok.mp steps
      rw [deref_eq_ok] at located
      have assigned : Ready s₀ (s.modifyInterface ifIndex fun ie => { ie with inetAddrs := ie.inetAddrs ++ [addr] }) :=
        ready.modifyInterface ifIndex (fun _ => rfl) fun _ started => started
      split at steps
      · cases steps
        exact ⟨assigned, .idle rfl fun _ => rfl⟩
      · rename_i fresh
        obtain ⟨⟨sent, next⟩, initialises, ends⟩ := bind_eq_ok.mp steps
        cases ends
        have here : (s.modifyInterface ifIndex fun ie =>
            { ie with inetAddrs := ie.inetAddrs ++ [addr] }).interfaces[ifIndex]? =
              some { ie with inetAddrs := ie.inetAddrs ++ [addr] } := by
          change (s.interfaces.modify ifIndex _)[ifIndex]? = _
          rw [List.getElem?_modify_eq, located]
          rfl
        obtain ⟨ready', moves⟩ := initialiseInterface_moves assigned here (Bool.not_eq_true _ ▸ fresh)
          (admits ie located) initialises
        exact ⟨ready', moves.congr rfl fun _ => rfl⟩
  | expire ifIndex delay => exact expire_moves ready admits steps
  | processRtrSol rs ngbr delay =>
      obtain ⟨ready', rfl, now, ⟨untaken, rfl⟩ | ⟨p, valid, scheduled, set, others⟩⟩ :=
        processRtrSol_moves ready off steps
      · have nothing : s'.solicited (.processRtrSol rs ngbr delay) = none := by
          unfold solicited
          dsimp only
          rcases untaken with invalid | missing
          · rw [invalid]
            rfl
          · rw [missing, Option.map_none, ite_self]
        rw [nothing]
        exact ⟨ready', .idle rfl fun _ => rfl⟩
      · have taken : s.solicited (.processRtrSol rs ngbr delay) = some rs.inputPort := by
          unfold solicited
          dsimp only
          rw [if_pos valid]
          cases found : s.advTmr rs.inputPort with
          | none =>
              rw [(timerOf_eq_none ready).mpr found] at scheduled
              cases scheduled
          | some tmr => rfl
        rw [taken]
        exact ⟨ready', .ask rs.inputPort delay p now admits scheduled set others⟩

end NDStateRouter

end IPv6Suite
