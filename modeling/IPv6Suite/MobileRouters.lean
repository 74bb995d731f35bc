import IPv6Suite.MIPv6RtrAdProcessing

namespace IPv6Suite

open Lib

namespace MobileIPv6

/-- Nothing happens that must not: a fault is of another kind. -/
abbrev Lawful {α : Type} (post : α → Prop) (r : MoveExec α) : Prop := Ensures (∃ fault, · = .other fault) post r

theorem lawful_lift {α : Type} (r : Exec α) : Lawful (fun _ => True) (MoveExec.lift r) := by
  cases r with
  | ok value => trivial
  | error fault => exact ⟨fault, rfl⟩

theorem lawful_assert (p : Prop) [Decidable p] : Lawful (fun _ => p) (MoveExec.assert p) := by
  unfold MoveExec.assert MoveExec.lift Exec.assert
  split
  · assumption
  · exact ⟨.assertFailed, rfl⟩

theorem lawful_require {v : RouterViolation} {p : Prop} [Decidable p] (holds : p) :
    Lawful (fun _ => True) (MoveExec.require v p) := by
  rw [MoveExec.require, if_pos holds]
  trivial

theorem ensures_require_neg {faults : MoveFault → Prop} {post : Unit → Prop} {v : RouterViolation} {p : Prop}
    [Decidable p] (fails : ¬ p) (violated : faults (.violation v)) : Ensures faults post (MoveExec.require v p) := by
  rw [MoveExec.require, if_neg fails]
  exact violated

namespace MIPv6NDStateHost

variable {heap : StdHeap SimTime} {now : SimTime} {env : Surroundings} {s s' s'' : MIPv6NDStateHost}
  {ra : MIPv6RtrAd} {p ha : Ptr} {llAddr : Ipv6Addr}

/-- Only entries that have been allocated are in the list. -/
def Allocated (s : MIPv6NDStateHost) : Prop := ∀ p ∈ s.mrl, p < s.next

/-- Nothing is allocated or enters the list, and the missed advertisement timer is neither created nor lost. -/
structure Keeps (s s' : MIPv6NDStateHost) : Prop where
  next : s'.next = s.next
  listed : ∀ p ∈ s'.mrl, p ∈ s.mrl
  timer : s'.missedTmr.isSome = s.missedTmr.isSome

theorem Keeps.refl (s : MIPv6NDStateHost) : Keeps s s := ⟨rfl, fun _ => id, rfl⟩

theorem Keeps.trans (first : Keeps s s') (second : Keeps s' s'') : Keeps s s'' :=
  ⟨second.next.trans first.next, fun p member => first.listed p (second.listed p member),
    second.timer.trans first.timer⟩

theorem Keeps.allocated (keeps : Keeps s s') (allocated : s.Allocated) : s'.Allocated := by
  intro p member
  rw [keeps.next]
  exact allocated p (keeps.listed p member)

theorem lawful_routerOf (s : MIPv6NDStateHost) (p : Ptr) : Lawful (fun _ => True) (s.routerOf p) :=
  (lawful_lift _).bind fun _ _ => (lawful_lift _).bind fun _ _ => True.intro

theorem lawful_findRouterFrom (s : MIPv6NDStateHost) (llAddr : Ipv6Addr) (ptrs : List Ptr) :
    Lawful (fun found => ∀ r ∈ found, r.1 ∈ ptrs) (s.findRouterFrom llAddr ptrs) := by
  induction ptrs with
  | nil => exact nofun
  | cons p rest ih =>
      unfold findRouterFrom
      refine (lawful_routerOf s p).bind fun _ _ => Ensures.ite (fun _ => ?_) fun _ => ?_
      · rintro _ ⟨⟩
        exact List.mem_cons_self
      · exact ih.imp fun found member r same => List.mem_cons_of_mem _ (member r same)

theorem lawful_findRouter (s : MIPv6NDStateHost) (llAddr : Ipv6Addr) :
    Lawful (fun found => ∀ p ∈ found, p ∈ s.mrl) (s.findRouter llAddr) := by
  refine (lawful_findRouterFrom s llAddr s.mrl).bind fun found member => ?_
  intro p same
  obtain ⟨r, inside, rfl⟩ := Option.map_eq_some_iff.mp same
  exact member r inside

theorem keeps_removeHomeAgent (s : MIPv6NDStateHost) (ha : Ptr) : Keeps s (s.removeHomeAgent ha) :=
  ⟨rfl, fun _ member => List.mem_of_mem_eraseP member, rfl⟩

theorem keeps_modifyEntry (s : MIPv6NDStateHost) (p : Ptr) (f : MIPv6RouterEntry → MIPv6RouterEntry) :
    Keeps s (s.modifyEntry p f) := ⟨rfl, fun _ => id, rfl⟩

theorem keeps_withCds (s : MIPv6NDStateHost) (cds : IPv6CDS) : Keeps s (s.withCds cds) := ⟨rfl, fun _ => id, rfl⟩

/-! ### Handover -/

theorem keeps_restartMissedTmr (s : MIPv6NDStateHost) (now : SimTime) (newRtr : Option Ptr) :
    Keeps s (s.restartMissedTmr now newRtr) := ⟨rfl, fun _ => id, Option.isSome_map⟩

theorem lawful_redirect (s : MIPv6NDStateHost) (oldAddr : Ipv6Addr) (newRtr : Option Ptr) :
    Lawful (Keeps s) (s.redirect oldAddr newRtr) := by
  cases newRtr with
  | none => exact keeps_withCds s _
  | some new =>
      apply (lawful_routerOf s new).bind
      intro r _
      apply (lawful_lift _).bind
      intro cds _
      exact keeps_withCds s cds

theorem lawful_redirectPrevious (s : MIPv6NDStateHost) (newRtr prev : Option Ptr) :
    Lawful (Keeps s) (s.redirectPrevious newRtr prev) := by
  unfold redirectPrevious
  split
  · apply Ensures.ite
    · intro _
      exact (lawful_routerOf s _).bind fun r _ => lawful_redirect s _ _
    · intro _
      exact Keeps.refl s
  · exact Keeps.refl s

theorem lawful_relinquishOld (s : MIPv6NDStateHost) (oldRtr : Ptr) (newRtr : Option Ptr) :
    Lawful (Keeps s) (relinquishOld heap now env s oldRtr newRtr) := by
  unfold relinquishOld
  apply (lawful_routerOf s oldRtr).bind
  intro r _
  apply (lawful_lift _).bind
  intro rt _
  have removed : Keeps s ({ s with rt }.modifyEntry oldRtr fun e =>
      { e with prefixes := (everySecond (s.entries oldRtr).prefixes.length [] (s.entries oldRtr).prefixes).2 }) :=
    ⟨rfl, fun _ => id, rfl⟩
  apply (lawful_redirect _ _ newRtr).bind
  intro s' redirected
  have kept := removed.trans redirected
  show Keeps s (if s'.primaryHA = none then s'.removeHomeAgent oldRtr else s')
  split
  · exact kept.trans (keeps_removeHomeAgent s' oldRtr)
  · exact kept

theorem lawful_setDefaultRouter (s : MIPv6NDStateHost) (rtr : Option Ptr) :
    Lawful (fun s' => Keeps s s' ∧ s'.currentRouter = s.currentRouter) (s.setDefaultRouter rtr) := by
  cases rtr with
  | none => exact ⟨Keeps.refl s, rfl⟩
  | some rtr =>
      apply (lawful_lift _).bind
      intro cds _
      exact ⟨keeps_withCds s cds, rfl⟩

theorem lawful_relinquishRouter {oldRtr newRtr : Option Ptr} (other : newRtr ≠ oldRtr) :
    Lawful (Keeps s) (relinquishRouter heap now env s oldRtr newRtr) := by
  unfold relinquishRouter
  apply (lawful_setDefaultRouter s newRtr).bind
  intro s' ⟨kept, _⟩
  apply (lawful_require other).bind
  intro _ _
  have current : Keeps s' { s' with currentRouter := newRtr } := ⟨rfl, fun _ => id, rfl⟩
  have restarted := (kept.trans current).trans (keeps_restartMissedTmr _ now newRtr)
  cases oldRtr with
  | none => exact (lawful_redirectPrevious _ newRtr _).imp fun s'' redirected => restarted.trans redirected
  | some old => exact (lawful_relinquishOld _ old newRtr).imp fun s'' relinquished => restarted.trans relinquished

theorem lawful_register (s : MIPv6NDStateHost) (newRtr : Option Ptr) :
    Lawful (Keeps s) (register env s newRtr) := by
  cases newRtr with
  | none => exact Keeps.refl s
  | some new =>
      apply (lawful_routerOf s new).bind
      intro r _
      apply Ensures.ite
      · intro _
        exact ⟨rfl, fun _ => id, rfl⟩
      · intro _
        apply (lawful_lift _).bind
        intro _ _
        exact ⟨rfl, fun _ => id, rfl⟩

theorem lawful_handover {newRtr : Option Ptr} (other : s.currentRouter ≠ newRtr) :
    Lawful (Keeps s) (handover heap now env s newRtr) := by
  unfold handover
  apply (lawful_require other).bind
  intro _ _
  apply (lawful_register { s with away := true } newRtr).bind
  intro s' registered
  have kept : Keeps s s' := ⟨registered.next, registered.listed, registered.timer⟩
  exact (lawful_relinquishRouter other.symm).imp fun s'' relinquished => kept.trans relinquished

/-! ### Movement detection -/

/-- Of two entries with different prefixes one is not the other. -/
theorem lawful_laterRouter (s : MIPv6NDStateHost) (cur : Ptr) :
    Lawful (fun later => ∀ last ∈ later, last ≠ cur) (s.laterRouter cur) := by
  unfold laterRouter
  apply (lawful_routerOf s cur).bind
  intro r _
  apply (lawful_findRouterFrom s _ s.mrl).bind
  intro found _
  split
  · apply (lawful_lift _).bind
    intro last _
    show ∀ later ∈ (if (s.entries cur).globalPrefix ≠ (s.entries last).globalPrefix then some last else none),
      later ≠ cur
    split
    · rintro _ ⟨⟩ rfl
      contradiction
    · exact nofun
  · exact nofun

theorem lawful_moveOn (s : MIPv6NDStateHost) : Lawful (Keeps s) (moveOn heap now env s) := by
  unfold moveOn
  split
  · exact Keeps.refl s
  · rename_i cur current
    apply (lawful_laterRouter s cur).bind
    intro later other
    cases later with
    | none =>
        apply (lawful_lift _).bind
        intro _ _
        apply lawful_handover
        simp [current]
    | some last =>
        apply lawful_handover
        rw [current]
        exact fun same => other last rfl (Option.some.inj same).symm

theorem lawful_movementDetectedCallback (s : MIPv6NDStateHost) (missed : Bool) :
    Lawful (Keeps s) (movementDetectedCallback heap now env s missed) := by
  unfold movementDetectedCallback
  have noted : Keeps s (if s.currentRouter.isSome then { s with previousDefaultRouter := s.currentRouter } else s) := by
    split
    · exact ⟨rfl, fun _ => id, rfl⟩
    · exact Keeps.refl s
  generalize (if s.currentRouter.isSome then { s with previousDefaultRouter := s.currentRouter } else s) = s' at noted
  apply Ensures.ite
  · intro _
    exact noted
  intro _
  apply Ensures.ite
  · intro _
    have printed : Lawful (fun _ => True) s'.printCurrent := by
      unfold printCurrent
      split
      · exact (lawful_routerOf s' _).bind fun _ _ => True.intro
      · exact True.intro
    apply printed.bind
    intro _ _
    exact (lawful_moveOn _).imp fun s'' moved => noted.trans ⟨moved.next, moved.listed, moved.timer⟩
  intro _
  apply Ensures.ite
  · intro _
    exact noted.trans ⟨rfl, fun _ => id, rfl⟩
  · intro _
    apply (lawful_moveOn _).imp
    intro s'' moved
    exact noted.trans ⟨moved.next, moved.listed, moved.timer.trans Option.isSome_map⟩

theorem lawful_missedRtrAdv {tmr : RtrAdvMissedTmr} (created : s.missedTmr = some tmr) :
    Lawful (Keeps s) (missedRtrAdv heap now env s tmr) := by
  apply Ensures.ite
  · intro _
    apply (lawful_movementDetectedCallback _ true).imp
    intro s' moved
    exact ⟨moved.next, moved.listed, moved.timer.trans (by simp [created])⟩
  · intro _
    exact ⟨rfl, fun _ => id, by simp [created]⟩

end MIPv6NDStateHost

end MobileIPv6

end IPv6Suite
