import IPv6Suite.MobileRouters

namespace IPv6Suite

open Lib

namespace MobileIPv6

namespace MIPv6NDStateHost

open MobileEvent (givesGlobal)

variable {heap : StdHeap SimTime} {now : SimTime} {env : Surroundings} {s s' : MIPv6NDStateHost}
  {ra : MIPv6RtrAd} {ha bha : Ptr}

/-! ### The entry of the router -/

/-- Everything but the entry and the destination cache is as it was. -/
structure Recorded (s s' : MIPv6NDStateHost) : Prop where
  next : s'.next = s.next
  mrl : s'.mrl = s.mrl
  timer : s'.missedTmr.isSome = s.missedTmr.isSome
  prefixList : s'.rt.cds.getPrefixEntry = s.rt.cds.getPrefixEntry

theorem Recorded.refl (s : MIPv6NDStateHost) : Recorded s s := ⟨rfl, rfl, rfl, rfl⟩

theorem Recorded.trans {s'' : MIPv6NDStateHost} (first : Recorded s s') (second : Recorded s' s'') : Recorded s s'' :=
  ⟨second.next.trans first.next, second.mrl.trans first.mrl, second.timer.trans first.timer,
    second.prefixList.trans first.prefixList⟩

theorem Recorded.allocated (recorded : Recorded s s') (allocated : s.Allocated) : s'.Allocated := by
  intro p member
  rw [recorded.next]
  rw [recorded.mrl] at member
  exact allocated p member

theorem lawful_recordPrefix (ha : Ptr) (s : MIPv6NDStateHost) (globalFound : Bool) (opt : OptPrefix) :
    Lawful (fun r => Recorded s r.1 ∧ r.2 = (globalFound || givesGlobal s.rt.cds opt))
      (recordPrefix ha (s, globalFound) opt) := by
  unfold recordPrefix
  dsimp only
  cases found : s.rt.cds.getPrefixEntry opt.address with
  | none => exact ⟨Recorded.refl s, by simp [givesGlobal, found]⟩
  | some node =>
      apply Ensures.ite
      · intro advertised
        apply Ensures.ite
        · intro _
          exact ⟨.assertFailed, rfl⟩
        · intro _
          exact ⟨⟨rfl, rfl, rfl, rfl⟩, by simp [givesGlobal, found, advertised]⟩
      · intro silent
        exact ⟨⟨rfl, rfl, rfl, rfl⟩, by simp [givesGlobal, found, silent]⟩

/-- A round leaves the prefix list alone, so that the rounds behind it find the same prefixes. -/
theorem lawful_recordPrefixes (ha : Ptr) (s : MIPv6NDStateHost) (globalFound : Bool) (opts : List OptPrefix) :
    Lawful (fun r => Recorded s r.1 ∧ r.2 = (globalFound || opts.any (givesGlobal s.rt.cds)))
      (opts.foldlM (recordPrefix ha) (s, globalFound)) := by
  induction opts generalizing s globalFound with
  | nil => exact ⟨Recorded.refl s, by simp⟩
  | cons opt rest ih =>
      rw [List.foldlM_cons]
      apply (lawful_recordPrefix ha s globalFound opt).bind
      intro ⟨s', found⟩ ⟨recorded, flag⟩
      have flag : found = (globalFound || givesGlobal s.rt.cds opt) := flag
      have gives : givesGlobal s'.rt.cds = givesGlobal s.rt.cds := by
        funext opt
        rw [givesGlobal, recorded.prefixList, givesGlobal]
      apply (ih s' found).imp
      intro r ⟨recorded', flag'⟩
      refine ⟨recorded.trans recorded', ?_⟩
      rw [flag', flag, gives, List.any_cons, Bool.or_assoc]

theorem lawful_deleteEntry (free : ha ∉ s.mrl) : Lawful (fun _ => True) (s.deleteEntry ha) := lawful_require free

theorem lawful_reviseOrder {bha : Option Ptr} (listed : ∀ p ∈ bha, p ∈ s.mrl) :
    Lawful (Keeps s) (s.reviseOrder ha bha) := by
  unfold reviseOrder
  apply Ensures.ite
  · intro _
    exact Keeps.refl s
  intro _
  apply (lawful_lift _).bind
  intro last _
  show Keeps s (if (s.entries last).globalPrefix ≠ (s.entries ha).globalPrefix then
    { s with mrl := s.mrl.filter (some · ≠ bha) ++ bha.toList } else s)
  split
  · refine ⟨rfl, fun p member => ?_, rfl⟩
    rcases List.mem_append.mp member with before | back
    · exact List.mem_of_mem_filter before
    · exact listed p (Option.mem_toList.mp back)
  · exact Keeps.refl s

/-- The list holds allocated entries, and the timer is there if it was. -/
structure Enlisted (s s' : MIPv6NDStateHost) : Prop where
  allocated : s'.Allocated
  timer : s'.missedTmr.isSome = s.missedTmr.isSome

theorem Keeps.enlisted (keeps : Keeps s s') (allocated : s.Allocated) : Enlisted s s' :=
  ⟨keeps.allocated allocated, keeps.timer⟩

theorem Enlisted.keeps {s'' : MIPv6NDStateHost} (enlisted : Enlisted s s') (keeps : Keeps s' s'') : Enlisted s s'' :=
  ⟨keeps.allocated enlisted.allocated, keeps.timer.trans enlisted.timer⟩

theorem lawful_insertHomeAgent (allocated : s.Allocated) (new : ha < s.next) :
    Lawful (Enlisted s) (s.insertHomeAgent ha) := by
  apply (lawful_findRouter s _).bind
  intro found _
  apply (lawful_assert _).bind
  intro _ _
  refine ⟨fun p member => ?_, rfl⟩
  rcases List.mem_append.mp member with before | back
  · exact allocated p before
  · rw [List.mem_singleton.mp back]
    exact new

theorem lawful_registerNew (allocated : s.Allocated) (new : ha < s.next) (free : ha ∉ s.mrl) :
    Lawful (fun r => Enlisted s r.2.2) (s.registerNew ra ha) := by
  unfold registerNew
  apply (lawful_findRouter s _).bind
  intro found _
  cases found with
  | some sha =>
      apply (lawful_assert _).bind
      intro _ _
      apply (lawful_routerOf s sha).bind
      intro r _
      apply (lawful_deleteEntry free).bind
      intro _ _
      exact ⟨allocated, rfl⟩
  | none =>
      apply (lawful_insertHomeAgent allocated new).bind
      intro s' inserted
      exact inserted

variable {known : Option Ptr}

/-- The entry is in the list already, or it is a new one that nothing refers to. -/
theorem lawful_enlist (allocated : s.Allocated) (listed : ∀ p ∈ known, p ∈ s.mrl)
    (fresh : known = none → ha < s.next ∧ ha ∉ s.mrl) :
    Lawful (fun r => Enlisted s r.2) (s.enlist ra known ha) := by
  unfold enlist
  cases known with
  | some bha =>
      apply (lawful_reviseOrder listed).bind
      intro s' revised
      apply (lawful_assert _).bind
      intro _ _
      exact revised.enlisted allocated
  | none =>
      obtain ⟨new, free⟩ := fresh rfl
      apply (lawful_registerNew allocated new free).bind
      intro ⟨ha', created, s'⟩ registered
      apply (lawful_findRouter s' _).bind
      intro bha member
      apply Ensures.ite
      · intro _
        apply (lawful_assert _).bind
        intro _ _
        exact registered
      · intro _
        apply (lawful_reviseOrder member).bind
        intro s'' revised
        apply (lawful_assert _).bind
        intro _ _
        exact registered.keeps revised

/-! ### The current router -/

theorem keeps_awayFromHome (s : MIPv6NDStateHost) : Keeps s s.awayFromHome.2 := by
  unfold awayFromHome
  split
  · exact Keeps.refl s
  · exact ⟨rfl, fun _ => id, rfl⟩

theorem lawful_choosePrimaryHA (s : MIPv6NDStateHost) (bha : Ptr) :
    Lawful (Keeps s) (s.choosePrimaryHA env ra bha) := by
  unfold choosePrimaryHA
  apply Ensures.ite
  · intro _
    exact Keeps.refl s
  intro _
  have looked := keeps_awayFromHome s
  apply Ensures.ite
  · intro _
    apply (lawful_lift _).bind
    intro homeAddr _
    exact ⟨looked.next, looked.listed, looked.timer⟩
  · intro _
    exact looked

theorem lawful_leaveStaticHA (s : MIPv6NDStateHost) (bha : Ptr) :
    Lawful (fun s' => Keeps s s' ∧ s'.currentRouter = s.currentRouter) (s.leaveStaticHA bha) := by
  unfold leaveStaticHA
  apply (lawful_lift _).bind
  intro r _
  apply Ensures.ite
  · intro _
    apply (lawful_lift _).bind
    intro ha _
    apply Ensures.ite
    · intro _
      exact lawful_setDefaultRouter s (some bha)
    · intro _
      exact ⟨Keeps.refl s, rfl⟩
  · intro _
    exact ⟨Keeps.refl s, rfl⟩

theorem lawful_handoverTo (other : s.currentRouter ≠ some bha) :
    Lawful (Keeps s) (s.handoverTo heap now env ra bha) := by
  apply Ensures.ite
  · intro _
    exact Keeps.refl s
  · intro _
    exact lawful_handover other

theorem lawful_chooseCurrent (s : MIPv6NDStateHost) (bha : Ptr) :
    Lawful (Keeps s) (s.chooseCurrent heap now env ra bha) := by
  unfold chooseCurrent
  split
  · rename_i noCurrent
    apply (lawful_leaveStaticHA s bha).bind
    intro s' ⟨kept, same⟩
    apply Ensures.ite
    · intro _
      have other : s'.currentRouter ≠ some bha := by simp [same, noCurrent]
      exact (lawful_handoverTo other).imp fun s'' handed => kept.trans handed
    · intro _
      exact kept.trans ⟨rfl, fun _ => id, rfl⟩
  · rename_i cur current
    apply Ensures.ite
    · intro ⟨_, beside⟩
      have leaves : Lawful (fun _ => True) (s.leaves cur) :=
        (lawful_routerOf s cur).bind fun _ _ => True.intro
      apply leaves.bind
      intro left _
      apply Ensures.ite
      · intro _
        apply lawful_handoverTo
        simp [current, beside]
      · intro _
        exact Keeps.refl s
    · intro _
      exact Keeps.refl s

/-! ### The missed advertisement timer -/

theorem lawful_updateMissedTmr (timed : ra.advInterval ≠ 0 ∨ s.missedTmr.isSome = true) (allocated : s.Allocated) :
    Lawful Allocated (s.updateMissedTmr now ra bha) := by
  unfold updateMissedTmr
  apply Ensures.ite
  · intro _
    apply Ensures.ite
    · intro _
      split
      · exact allocated
      · exact allocated
    · intro _
      exact allocated
  · intro none
    have created : s.missedTmr.isSome = true := timed.resolve_left none
    apply (lawful_require created).bind
    intro _ _
    exact allocated

/-- An entry is freed that is in the list, or the timer is missing, if nothing of another kind has failed before. -/
def Slips (fault : MoveFault) : Prop :=
  fault ≠ .violation .handoverToCurrent ∧ fault ≠ .violation .relinquishedToItself

theorem slips_of_other (fault : MoveFault) (other : ∃ fault', fault = .other fault') : Slips fault := by
  obtain ⟨fault', rfl⟩ := other
  exact ⟨nofun, nofun⟩

theorem updateMissedTmr_untimed (noInterval : ra.advInterval = 0) (noTmr : s.missedTmr.isSome = false) :
    Ensures Slips (fun _ => False) (s.updateMissedTmr now ra bha) := by
  unfold updateMissedTmr
  rw [if_neg (not_not.mpr noInterval)]
  have missing : ¬ s.missedTmr.isSome = true := by simp [noTmr]
  apply (ensures_require_neg missing ⟨nofun, nofun⟩).bind
  exact fun _ => False.elim

/-! ### An advertisement -/

/-- From the complete entry of the router up to the timer -/
theorem ensures_current {faults : MoveFault → Prop} {post : MIPv6NDStateHost → Prop}
    (others : ∀ fault, (∃ other, fault = .other other) → faults fault) (allocated : s.Allocated)
    (listed : ∀ p ∈ known, p ∈ s.mrl) (fresh : known = none → ha < s.next ∧ ha ∉ s.mrl)
    (rest : ∀ bha s', Enlisted s s' → Ensures faults post (s'.updateMissedTmr now ra bha)) :
    Ensures faults post (do
      let (bha, s) ← s.enlist ra known ha
      let s ← s.choosePrimaryHA env ra bha
      let s ← s.chooseCurrent heap now env ra bha
      s.updateMissedTmr now ra bha) := by
  apply ((lawful_enlist allocated listed fresh).fewer others).bind
  intro ⟨bha, s₁⟩ enlisted
  apply ((lawful_choosePrimaryHA s₁ bha).fewer others).bind
  intro s₂ chosen
  apply ((lawful_chooseCurrent s₂ bha).fewer others).bind
  intro s₃ current
  exact rest bha s₃ ((enlisted.keeps chosen).keeps current)

theorem lawful_processEntry (allocated : s.Allocated) (listed : ∀ p ∈ known, p ∈ s.mrl)
    (fresh : known = none → ha < s.next ∧ ha ∉ s.mrl)
    (sound : if ra.prefixes.any (givesGlobal s.rt.cds) then ra.advInterval ≠ 0 ∨ s.missedTmr.isSome = true
      else known = none) :
    Lawful Allocated (s.processEntry heap now env ra known ha) := by
  unfold processEntry
  apply (lawful_recordPrefixes ha s false ra.prefixes).bind
  intro ⟨s', globalFound⟩ ⟨recorded, flag⟩
  have flag : globalFound = ra.prefixes.any (givesGlobal s.rt.cds) := flag
  rw [← flag] at sound
  rw [← recorded.mrl] at listed
  rw [← recorded.next, ← recorded.mrl] at fresh
  apply Ensures.ite
  · intro found
    rw [if_pos found, ← recorded.timer] at sound
    apply ensures_current (fun _ => id) (recorded.allocated allocated) listed fresh
    intro bha s'' kept
    rw [← kept.timer] at sound
    exact lawful_updateMissedTmr sound kept.allocated
  · intro notFound
    rw [if_neg notFound] at sound
    apply (lawful_deleteEntry (fresh sound).2).bind
    intro _ _
    exact recorded.allocated allocated

/-- Otherwise the function does not return. -/
theorem processEntry_unsound (allocated : s.Allocated)
    (listed : ∀ p ∈ known, p ∈ s.mrl) (same : ∀ p ∈ known, p = ha) (fresh : known = none → ha < s.next ∧ ha ∉ s.mrl)
    (unsound : ¬ if ra.prefixes.any (givesGlobal s.rt.cds) then ra.advInterval ≠ 0 ∨ s.missedTmr.isSome = true
      else known = none) :
    Ensures Slips (fun _ => False) (s.processEntry heap now env ra known ha) := by
  unfold processEntry
  apply ((lawful_recordPrefixes ha s false ra.prefixes).fewer slips_of_other).bind
  intro ⟨s', globalFound⟩ ⟨recorded, flag⟩
  have flag : globalFound = ra.prefixes.any (givesGlobal s.rt.cds) := flag
  rw [← flag] at unsound
  rw [← recorded.mrl] at listed
  rw [← recorded.next, ← recorded.mrl] at fresh
  apply Ensures.ite
  · intro found
    rw [if_pos found, ← recorded.timer, not_or, not_not, Bool.not_eq_true] at unsound
    apply ensures_current slips_of_other (recorded.allocated allocated) listed fresh
    intro bha s'' kept
    rw [← kept.timer] at unsound
    exact updateMissedTmr_untimed unsound.1 unsound.2
  · intro notFound
    rw [if_neg notFound] at unsound
    obtain ⟨p, known⟩ := Option.ne_none_iff_exists'.mp unsound
    have member := listed p known
    rw [same p known] at member
    apply (ensures_require_neg (not_not.mpr member) ⟨nofun, nofun⟩).bind
    exact fun _ => False.elim

theorem createEntry_fresh (allocated : s.Allocated) :
    (s.createEntry ra).Allocated ∧ s.next < (s.createEntry ra).next ∧ s.next ∉ (s.createEntry ra).mrl := by
  refine ⟨fun p member => ?_, Nat.lt_succ_self _, fun member => ?_⟩
  · exact Nat.lt_succ_of_lt (allocated p member)
  · exact Nat.lt_irrefl _ (allocated s.next member)

theorem lawful_processRtrAd (allocated : s.Allocated) (sound : MobileEvent.Sound heap s ⟨now, env, .rtrAd ra⟩) :
    Lawful Allocated (s.processRtrAd heap now env ra) := by
  unfold processRtrAd
  cases received : NDStateHost.processRtrAd heap now s.rt ra.toRtrAd with
  | error fault => exact ⟨fault, rfl⟩
  | ok rt =>
      have sound := sound.of_ok received
      have found := lawful_findRouter { s with rt } ra.srcAddress
      apply Ensures.ok_bind
      dsimp only
      cases search : findRouter { s with rt } ra.srcAddress with
      | error fault => exact found.of_error search
      | ok known =>
          have listed := found.of_ok search
          have sound := sound.of_ok search
          apply Ensures.ok_bind
          cases known with
          | some ha =>
              have removed := (keeps_removeHomeAgent { s with rt } ha).allocated allocated
              apply Ensures.ite
              · intro _
                exact removed
              intro _
              apply Ensures.ite
              · intro _
                exact removed
              intro alive
              apply (lawful_assert _).bind
              intro _ same
              apply Ensures.ite
              · intro _
                exact allocated
              · intro advertised
                apply lawful_processEntry
                · exact allocated
                · exact listed
                · exact nofun
                · exact sound (by simpa using same) alive advertised
          | none =>
              apply Ensures.ite
              · intro _
                exact allocated
              · intro worth
                obtain ⟨alive, advertised⟩ := not_or.mp worth
                have fresh : (createEntry { s with rt } ra).Allocated ∧ _ := createEntry_fresh allocated
                apply lawful_processEntry
                · exact fresh.1
                · exact nofun
                · exact fun _ => fresh.2
                · exact sound nofun alive advertised

theorem processRtrAd_unsound (allocated : s.Allocated)
    (unsound : ¬ MobileEvent.Sound heap s ⟨now, env, .rtrAd ra⟩) :
    Ensures Slips (fun _ => False) (s.processRtrAd heap now env ra) := by
  obtain ⟨rt, received, unsound⟩ := OnReturn.exists_of_not unsound
  obtain ⟨known, search, unsound⟩ := OnReturn.exists_of_not unsound
  have listed := (lawful_findRouter _ _).of_ok search
  rw [MobileEvent.SoundAd, Classical.not_imp, Classical.not_imp, Classical.not_imp] at unsound
  obtain ⟨same, alive, advertised, unsound⟩ := unsound
  rw [processRtrAd, received]
  apply Ensures.ok_bind
  dsimp only
  rw [search]
  apply Ensures.ok_bind
  cases known with
  | some ha =>
      have same := same ha rfl
      apply Ensures.ite
      · intro ⟨plain, homeAgent⟩
        rw [plain] at same
        exact absurd (same.symm.trans homeAgent) Bool.false_ne_true
      intro _
      apply Ensures.ite
      · intro dead
        exact absurd dead alive
      intro _
      apply ((lawful_assert _).fewer slips_of_other).bind
      intro _ _
      apply Ensures.ite
      · intro noPrefix
        exact absurd noPrefix advertised
      · intro _
        apply processEntry_unsound
        · exact allocated
        · exact listed
        · exact fun p known => (Option.some.inj known).symm
        · exact nofun
        · exact unsound
  | none =>
      apply Ensures.ite
      · intro worthless
        exact absurd worthless (not_or.mpr ⟨alive, advertised⟩)
      · intro _
        have fresh : (createEntry { s with rt } ra).Allocated ∧ _ := createEntry_fresh allocated
        apply processEntry_unsound
        · exact fresh.1
        · exact nofun
        · exact nofun
        · exact fun _ => fresh.2
        · exact unsound

/-! ### Runs -/

theorem keeps_expireLifetimes (s : MIPv6NDStateHost) (dec : BitVec 32) : Keeps s (s.expireLifetimes dec) := by
  unfold expireLifetimes
  generalize s.mrl = ptrs
  induction ptrs generalizing s with
  | nil => exact Keeps.refl s
  | cons p rest ih =>
      rw [List.foldl_cons]
      split
      · exact (keeps_modifyEntry s p _).trans (ih _)
      · have erased : Keeps s { s with mrl := s.mrl.erase p } := ⟨rfl, fun _ => List.mem_of_mem_erase, rfl⟩
        exact erased.trans (ih _)

theorem lawful_assignHomeAgent (allocated : s.Allocated) (haAddr : Ipv6Addr) :
    Lawful Allocated (assignHomeAgent env s haAddr) := by
  unfold assignHomeAgent
  apply (lawful_lift _).bind
  intro ⟨p, cds⟩ _
  dsimp only
  refine Ensures.bind (lawful_insertHomeAgent (fun q member => ?_) (Nat.lt_succ_self s.next)) fun s' inserted => ?_
  · exact Nat.lt_succ_of_lt (allocated q member)
  · apply (lawful_lift _).bind
    intro homeAddr _
    exact inserted.allocated

theorem create_allocated (rt : RoutingTable6) (eagerHandover hmipSupport : Bool) (maxConsecutiveMissedRtrAdv : Nat) :
    (create rt eagerHandover hmipSupport maxConsecutiveMissedRtrAdv).Allocated := nofun

theorem initial_allocated (initial : Initial s) : s.Allocated := by
  cases initial with
  | noHomeAgent => exact create_allocated _ _ _ _
  | homeAgent assigned => exact (lawful_assignHomeAgent (create_allocated _ _ _ _) _).of_ok assigned

variable {e : MobileEvent}

theorem lawful_advance (allocated : s.Allocated) (sound : e.Sound heap s) :
    Lawful Allocated (e.advance heap s) := by
  obtain ⟨now, env, trigger⟩ := e
  cases trigger with
  | rtrAd ra => exact lawful_processRtrAd allocated sound
  | missedRtrAdv =>
      unfold MobileEvent.advance
      dsimp only
      split
      · rename_i tmr created
        exact (lawful_missedRtrAdv created).imp fun s' kept => kept.allocated allocated
      · exact allocated
  | l2Trigger => exact (lawful_movementDetectedCallback s false).imp fun s' kept => kept.allocated allocated
  | expireLifetimes dec => exact (keeps_expireLifetimes s dec).allocated allocated
  | routerTimer =>
      apply (lawful_lift _).bind
      intro rt _
      exact allocated
  | prefixTimer =>
      apply (lawful_lift _).bind
      intro rt _
      exact allocated

theorem step_allocated (allocated : s.Allocated) (sound : e.Sound heap s) : OnReturn Allocated (e.step heap s) :=
  Ensures.mapError (OnReturn.of_ensures (lawful_advance allocated sound))

theorem advance_unsound (allocated : s.Allocated) (unsound : ¬ e.Sound heap s) :
    Ensures Slips (fun _ => False) (e.advance heap s) := by
  obtain ⟨now, env, trigger⟩ := e
  cases trigger with
  | rtrAd ra => exact processRtrAd_unsound allocated unsound
  | _ => exact absurd trivial unsound

theorem fails_of_unsound (allocated : s.Allocated) (unsound : ¬ e.Sound heap s) :
    ∃ fault, e.advance heap s = .error fault ∧ Slips fault := by
  obtain ⟨fault, fails⟩ := (OnReturn.of_ensures (advance_unsound allocated unsound)).fails
  exact ⟨fault, fails, (advance_unsound allocated unsound).of_error fails⟩

/-- An event that is not sound does not return, so that those of a run are. -/
theorem sound_of_step (allocated : s.Allocated) (stepped : e.step heap s = .ok s') : e.Sound heap s := by
  by_contra unsound
  obtain ⟨fault, fails, _⟩ := fails_of_unsound allocated unsound
  rw [MobileEvent.step, fails] at stepped
  cases stepped

theorem runs_allocated {s₀ : MIPv6NDStateHost} {es : List MobileEvent} (initial : Initial s₀)
    (runs : Runs (MobileEvent.step heap) (fun s e => e.Admits s) s₀ es s) : s.Allocated := by
  apply runs.invariant Allocated
  · intro s e s' allocated _ stepped
    exact (step_allocated allocated (sound_of_step allocated stepped)).of_ok stepped
  · exact initial_allocated initial

/-- A sound event does nothing that must not happen. One that is not sound ends the run, and the assertions hold even
then. -/
theorem sound_unviolated {s₀ : MIPv6NDStateHost} {es : List MobileEvent} (initial : Initial s₀)
    (runs : Runs (MobileEvent.step heap) (fun s e => e.Admits s) s₀ es s) (e : MobileEvent) :
    (e.Sound heap s → ∀ v, e.advance heap s ≠ .error (.violation v)) ∧
      (¬ e.Sound heap s → ∃ fault, e.advance heap s = .error fault ∧ fault ≠ .violation .handoverToCurrent ∧
        fault ≠ .violation .relinquishedToItself) := by
  have allocated := runs_allocated initial runs
  constructor
  · intro sound v violated
    obtain ⟨fault, other⟩ := (lawful_advance allocated sound).of_error violated
    cases other
  · exact fails_of_unsound allocated

/-! ### A node at home and away -/

def surroundings : Surroundings := ⟨fun pref _ => .ok pref.addr, .ok (), fun _ => .ok (), true⟩

/-- The prefix `2001:db8:n::/64`, given by the address of the router or not -/
def subnetPrefix (n : BitVec 32) (rtrAddr : Bool) : OptPrefix :=
  ⟨64, true, true, 1000, 1000, ⟨0x20010DB8, n, 0, if rtrAddr then 1 else 0⟩, rtrAddr⟩

def subnetRouter (n : BitVec 32) (isHomeAgent rtrAddr : Bool) (advInterval : BitVec 32) : MIPv6RtrAd where
  srcAddress := ⟨0xFE800000, 0, 0, n⟩
  inputPort := 0
  routerLifetime := 1800
  srcLLAddr := some "0:0:0:0:0:1"
  prefixes := [subnetPrefix n rtrAddr]
  isHomeAgent := isHomeAgent
  homeAgentInfo := none
  advInterval := advInterval
  hasMapOptions := false

def started : MIPv6NDStateHost := create (RoutingTable6.create true 1) false false 3

/-- The node hears its home agent and a foreign router, and moves. -/
def moves : List MobileEvent := [
  ⟨0, surroundings, .rtrAd (subnetRouter 1 true true 1000)⟩,
  ⟨1, surroundings, .missedRtrAdv⟩,
  ⟨2, surroundings, .l2Trigger⟩,
  ⟨2, surroundings, .rtrAd (subnetRouter 2 false true 1000)⟩,
  ⟨2, surroundings, .l2Trigger⟩]

def returns : MobileEvent := ⟨3, surroundings, .rtrAd (subnetRouter 1 true true 0)⟩

theorem sound_unviolated_moves : ∃ s, Runs (MobileEvent.step StdHeap.sorted) (fun s e => e.Admits s) started moves s ∧
    returns.Sound StdHeap.sorted s ∧ ∀ v, returns.advance StdHeap.sorted s ≠ .error (.violation v) := by
  have ran : (run (fun s (e : MobileEvent) => Exec.assert (e.Admits s) >>= fun _ => e.step StdHeap.sorted s)
      started moves).map (fun s => decide (returns.Sound StdHeap.sorted s)) = .ok true := by decide +kernel
  obtain ⟨s, ran, sound⟩ := map_eq_ok ran
  have runs := Runs.of_checked ran
  have sound := of_decide_eq_true sound
  exact ⟨s, runs, sound, (sound_unviolated (.noHomeAgent _ _ _ _) runs returns).1 sound⟩

/-- In no run does it come to `v`. -/
def Unviolated (v : RouterViolation) : Prop :=
  ∀ (heap : StdHeap SimTime) (s₀ s : MIPv6NDStateHost) (es : List MobileEvent), Initial s₀ →
    Runs (MobileEvent.step heap) (fun s e => e.Admits s) s₀ es s → ∀ e : MobileEvent, e.Admits s →
      e.advance heap s ≠ .error (.violation v)

theorem violated_of_run {v : RouterViolation} (es : List MobileEvent) (e : MobileEvent)
    (ran : (run (fun s (e : MobileEvent) => Exec.assert (e.Admits s) >>= fun _ => e.step StdHeap.sorted s)
      started es).map (fun s => decide (e.Admits s ∧
        Ensures (· = .violation v) (fun _ => False) (e.advance StdHeap.sorted s))) = .ok true) :
    ¬ Unviolated v := by
  intro claimed
  obtain ⟨s, ran, last⟩ := map_eq_ok ran
  obtain ⟨admits, violates⟩ := of_decide_eq_true last
  obtain ⟨fault, fails⟩ := (OnReturn.of_ensures violates).fails
  rw [violates.of_error fails] at fails
  exact claimed StdHeap.sorted started s es (.noHomeAgent _ _ _ _) (Runs.of_checked ran) e admits fails

/-- The home agent advertises its prefix without its address, and the first advertisement is without an interval. -/
theorem not_unviolated : ¬ Unviolated .listedEntryFreed ∧ ¬ Unviolated .noMissedTmr := by
  constructor
  · apply violated_of_run [⟨0, surroundings, .rtrAd (subnetRouter 1 true true 1000)⟩]
      ⟨1, surroundings, .rtrAd (subnetRouter 1 true false 1000)⟩
    decide +kernel
  · apply violated_of_run [] ⟨0, surroundings, .rtrAd (subnetRouter 1 true true 0)⟩
    decide +kernel

end MIPv6NDStateHost

end MobileIPv6

end IPv6Suite
