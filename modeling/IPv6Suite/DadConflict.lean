import IPv6Suite.DupAddrDet

namespace IPv6Suite

open Lib

namespace DupAddrDet

variable {s s' t : DupAddrDet} {known : Ptr → Prop}

/-- What the host does to go on from `s`: a timer it works with was there, is one of the
`known` ones or is new, and so is one whose detection assigns an address. -/
structure Continues (known : Ptr → Prop) (s s' : DupAddrDet) : Prop where
  next : s.next ≤ s'.next
  timers : ∀ m' ∈ s'.timerMsgs, (∃ m ∈ s.timerMsgs, m.ptr = m'.ptr) ∨ known m'.ptr ∨
    s.next ≤ m'.ptr ∧ m'.ptr < s'.next
  assigned : ∀ p i a, .addrAssigned p i a ∈ s'.sent → .addrAssigned p i a ∈ s.sent ∨
    (∃ m ∈ s.timerMsgs, m.ptr = p) ∨ known p ∨ s.next ≤ p ∧ p < s'.next

namespace Continues

theorem of_same (next : s'.next = s.next) (timers : s'.timerMsgs = s.timerMsgs)
    (sent : s'.sent = s.sent) : Continues known s s' := by
  refine ⟨Nat.le_of_eq next.symm, fun m' inside => Or.inl ⟨m', timers ▸ inside, rfl⟩,
    fun p i a assigned => Or.inl (sent ▸ assigned)⟩

theorem refl (s : DupAddrDet) : Continues known s s := of_same rfl rfl rfl

theorem trans (first : Continues known s s') (second : Continues known s' t) : Continues known s t := by
  have low := first.next
  have high := second.next
  refine ⟨Nat.le_trans low high, fun m'' inside => ?_, fun p i a assigned => ?_⟩
  · rcases second.timers m'' inside with ⟨m', inside', same⟩ | listed | fresh
    · rw [← same]
      rcases first.timers m' inside' with old | listed | fresh
      · exact Or.inl old
      · exact Or.inr (Or.inl listed)
      · exact Or.inr (Or.inr ⟨fresh.1, Nat.lt_of_lt_of_le fresh.2 high⟩)
    · exact Or.inr (Or.inl listed)
    · exact Or.inr (Or.inr ⟨Nat.le_trans low fresh.1, fresh.2⟩)
  · rcases second.assigned p i a assigned with before | ⟨m', inside', same⟩ | listed | fresh
    · rcases first.assigned p i a before with old | old | listed | fresh
      · exact Or.inl old
      · exact Or.inr (Or.inl old)
      · exact Or.inr (Or.inr (Or.inl listed))
      · exact Or.inr (Or.inr (Or.inr ⟨fresh.1, Nat.lt_of_lt_of_le fresh.2 high⟩))
    · subst same
      rcases first.timers m' inside' with old | listed | fresh
      · exact Or.inr (Or.inl old)
      · exact Or.inr (Or.inr (Or.inl listed))
      · exact Or.inr (Or.inr (Or.inr ⟨fresh.1, Nat.lt_of_lt_of_le fresh.2 high⟩))
    · exact Or.inr (Or.inr (Or.inl listed))
    · exact Or.inr (Or.inr (Or.inr ⟨Nat.le_trans low fresh.1, fresh.2⟩))

/-- Timers are only taken out, and no assignment is added. -/
theorem of_subset (next : s'.next = s.next) (timers : ∀ m ∈ s'.timerMsgs, m ∈ s.timerMsgs)
    (sent : ∀ p i a, .addrAssigned p i a ∈ s'.sent → .addrAssigned p i a ∈ s.sent) : Continues known s s' := by
  refine ⟨Nat.le_of_eq next.symm, fun m' inside => Or.inl ⟨m', timers m' inside, rfl⟩,
    fun p i a assigned => Or.inl (sent p i a assigned)⟩

theorem of_allocated (goes : Continues (· = s.next) { s with next := s.next + 1 } s') :
    Continues known s s' := by
  have bound : s.next + 1 ≤ s'.next := goes.next
  refine ⟨Nat.le_of_succ_le bound, fun m' inside => ?_, fun p i a assigned => ?_⟩
  · rcases goes.timers m' inside with old | same | fresh
    · exact Or.inl old
    · exact Or.inr (Or.inr ⟨Nat.le_of_eq same.symm, same ▸ bound⟩)
    · exact Or.inr (Or.inr ⟨Nat.le_of_succ_le fresh.1, fresh.2⟩)
  · rcases goes.assigned p i a assigned with old | old | same | fresh
    · exact Or.inl old
    · exact Or.inr (Or.inl old)
    · exact Or.inr (Or.inr (Or.inr ⟨Nat.le_of_eq same.symm, same ▸ bound⟩))
    · exact Or.inr (Or.inr (Or.inr ⟨Nat.le_of_succ_le fresh.1, fresh.2⟩))

theorem of_listed {m : NDTimerMsg} (inside : m ∈ s.timerMsgs)
    (goes : Continues (· = m.ptr) s s') : Continues known s s' := by
  refine ⟨goes.next, fun m' inside' => ?_, fun p i a assigned => ?_⟩
  · rcases goes.timers m' inside' with old | same | fresh
    · exact Or.inl old
    · exact Or.inl ⟨m, inside, same.symm⟩
    · exact Or.inr (Or.inr fresh)
  · rcases goes.assigned p i a assigned with old | old | same | fresh
    · exact Or.inl old
    · exact Or.inr (Or.inl old)
    · exact Or.inr (Or.inl ⟨m, inside, same.symm⟩)
    · exact Or.inr (Or.inr (Or.inr fresh))

end Continues

variable {message : DadOutput}

theorem assigned_append {p : Ptr} {i : Nat} {a : Ipv6Addr} (assigned : .addrAssigned p i a ∈ s.sent ++ [message])
    (other : message ≠ .addrAssigned p i a) : .addrAssigned p i a ∈ s.sent := by
  rcases List.mem_append.mp assigned with old | new
  · exact old
  · exact absurd (List.mem_singleton.mp new).symm other

/-! ### The operations go on -/

theorem scheduleAt_continues (p : Ptr) (time : SimTime) (kind : NDTimerKind) :
    Continues known s (s.scheduleAt p time kind) := by
  refine ⟨Nat.le_refl _, fun m' inside => Or.inl ?_, fun q i a assigned => Or.inl assigned⟩
  obtain ⟨m, before, same⟩ := List.mem_map.mp inside
  refine ⟨m, before, ?_⟩
  rw [← same]
  split
  · rename_i found
    exact found
  · rfl

theorem removeTimer_continues (p : Ptr) : Continues known s (s.removeTimer p) :=
  .of_subset rfl (fun _ inside => (List.mem_filter.mp inside).1) fun _ _ _ assigned => assigned

theorem joinMulticastGroup_continues {addr : Ipv6Addr}
    (joins : s.joinMulticastGroup addr = .ok s') : Continues known s s' := by
  obtain ⟨_, -, done⟩ := bind_eq_ok.mp joins
  cases done
  exact .of_same rfl rfl rfl

variable {addr : InterfaceAddress} {ifIndex : Nat}

theorem assignAddress_continues (assigns : s.assignAddress addr ifIndex = .ok s') : Continues known s s' := by
  simp only [assignAddress, bind_eq_ok] at assigns
  obtain ⟨_, -, ie, -, _, -, ipv6, -, _, -, done⟩ := assigns
  cases done
  exact .of_same rfl rfl rfl

theorem scheduleSent_continues (p : Ptr) (time : SimTime)
    (kind : NDTimerKind) (other : ∀ q i a, message ≠ .addrAssigned q i a) :
    Continues known s ({ s with sent := s.sent ++ [message] }.scheduleAt p time kind) := by
  have sends : Continues known s { s with sent := s.sent ++ [message] } :=
    .of_subset rfl (fun _ inside => inside) fun q i a assigned =>
      assigned_append assigned (other q i a)
  exact sends.trans (scheduleAt_continues p time kind)

variable {now : SimTime}

theorem sendRtrSolAfter_continues {p : Ptr} {tmr : NDTimer} {delay : SimTime}
    (sends : s.sendRtrSolAfter now p tmr delay = .ok s') : Continues known s s' := by
  unfold sendRtrSolAfter at sends
  split at sends
  · obtain ⟨dgram, -, done⟩ := bind_eq_ok.mp sends
    cases done
    exact scheduleSent_continues _ _ _ fun _ _ _ => DadOutput.noConfusion
  · cases sends
    exact removeTimer_continues p

theorem append_continues (m : NDTimerMsg) (listed : known m.ptr) :
    Continues known s { s with timerMsgs := s.timerMsgs ++ [m] } := by
  refine ⟨Nat.le_refl _, fun m' inside => ?_, fun _ _ _ assigned => Or.inl assigned⟩
  rcases List.mem_append.mp inside with old | new
  · exact Or.inl ⟨m', old, rfl⟩
  · rw [List.mem_singleton.mp new]
    exact Or.inr (Or.inl listed)

theorem sendRtrSol_continues (sends : s.sendRtrSol now ifIndex = .ok s') : Continues known s s' := by
  obtain ⟨ie, -, done⟩ := bind_eq_ok.mp sends
  refine .of_allocated (.trans ?_ (sendRtrSolAfter_continues done))
  exact append_continues (s := { s with next := s.next + 1 }) _ rfl

section Detection

variable {detect : Ptr → NDTimer → DupAddrDet → Exec DupAddrDet}
variable (detects : ∀ {p : Ptr} {tmr : NDTimer} {s s' : DupAddrDet}, detect p tmr s = .ok s' →
  Continues (· = p) s s')

include detects

theorem newDetection_continues (detected : s.newDetection detect ifIndex addr = .ok s') : Continues known s s' :=
  .of_allocated (detects detected)

theorem dupAddrDetFrom_continues {ifIndex rounds j : Nat}
    (detected : dupAddrDetFrom detect ifIndex rounds j s = .ok s') : Continues known s s' := by
  induction rounds generalizing j s with
  | zero =>
      cases detected
      exact .refl _
  | succ rounds ih =>
      unfold dupAddrDetFrom at detected
      split at detected
      · cases detected
        exact .refl _
      · obtain ⟨middle, first, rest⟩ := bind_eq_ok.mp detected
        exact (newDetection_continues detects first).trans (ih rest)

theorem initialiseInterface_continues
    (done : s.initialiseInterface detect now ifIndex = .ok s') : Continues known s s' := by
  obtain ⟨middle, others, done⟩ := bind_eq_ok.mp done
  obtain ⟨ie, -, others⟩ := bind_eq_ok.mp others
  refine (dupAddrDetFrom_continues detects others).trans ?_
  obtain ⟨ie', -, done⟩ := bind_eq_ok.mp done
  split at done
  · exact sendRtrSol_continues done
  · cases done
    exact .refl _

theorem initialiseOnce_continues (done : s.initialiseOnce detect now ifIndex = .ok s') : Continues known s s' := by
  obtain ⟨ie, -, done⟩ := bind_eq_ok.mp done
  split at done
  · obtain ⟨middle, initialised, done⟩ := bind_eq_ok.mp done
    obtain ⟨ie', -, done⟩ := bind_eq_ok.mp done
    cases done
    have entered : Continues known s { s with stateEntered := true } := .of_same rfl rfl rfl
    refine (entered.trans (initialiseInterface_continues detects initialised)).trans ?_
    exact .of_same rfl rfl rfl
  · cases done
    exact .refl s

theorem dupAddrDetSuccess_continues {p : Ptr} {tmr : NDTimer}
    (done : s.dupAddrDetSuccess detect now p tmr = .ok s') : Continues (· = p) s s' := by
  obtain ⟨first, assigns, done⟩ := bind_eq_ok.mp done
  obtain ⟨second, initialised, done⟩ := bind_eq_ok.mp done
  cases done
  refine ((assignAddress_continues assigns).trans
    (initialiseOnce_continues detects initialised)).trans ?_
  refine ⟨Nat.le_refl _, fun m' inside => Or.inl ⟨m', inside, rfl⟩, fun q i a assigned => ?_⟩
  rcases List.mem_append.mp assigned with old | new
  · exact Or.inl old
  · cases List.mem_singleton.mp new
    exact Or.inr (Or.inr (Or.inl rfl))

theorem dupAddrDetContinue_continues {p : Ptr} {tmr : NDTimer}
    {delay : SimTime} (done : s.dupAddrDetContinue detect now p tmr delay = .ok s') : Continues (· = p) s s' := by
  unfold dupAddrDetContinue at done
  split at done
  · obtain ⟨dgram, -, done⟩ := bind_eq_ok.mp done
    cases done
    exact scheduleSent_continues _ _ _ fun _ _ _ => DadOutput.noConfusion
  · obtain ⟨middle, success, done⟩ := bind_eq_ok.mp done
    cases done
    exact (dupAddrDetSuccess_continues detects success).trans (removeTimer_continues p)

theorem dupAddrDetStart_continues {p : Ptr} {tmr : NDTimer} {ie : DadInterface}
    (done : s.dupAddrDetStart detect now p tmr ie = .ok s') : Continues (· = p) s s' := by
  obtain ⟨_, -, done⟩ := bind_eq_ok.mp done
  have continued := dupAddrDetContinue_continues detects done
  exact .trans (append_continues (s := s) _ rfl) continued

end Detection

theorem dupAddrDetection_continues {depth : Nat} {p : Ptr} {tmr : NDTimer}
    (done : dupAddrDetection now depth p tmr s = .ok s') : Continues (· = p) s s' := by
  induction depth generalizing p tmr s s' with
  | zero => cases done
  | succ depth ih =>
      obtain ⟨ie, -, done⟩ := bind_eq_ok.mp done
      split at done
      · exact dupAddrDetContinue_continues ih done
      · obtain ⟨joined, joins, done⟩ := bind_eq_ok.mp done
        refine (joinMulticastGroup_continues joins).trans ?_
        split at done
        · exact dupAddrDetSuccess_continues ih done
        · exact dupAddrDetStart_continues ih done

theorem linkLocalAddr_continues (found : s.linkLocalAddr ifIndex = .ok (addr, s')) : Continues known s s' := by
  obtain ⟨ie, -, done⟩ := bind_eq_ok.mp found
  split at done
  · cases done
    exact .of_same rfl rfl rfl
  · obtain ⟨token, -, done⟩ := bind_eq_ok.mp done
    cases done
    exact .of_same rfl rfl rfl

theorem nodeInitialise_continues (done : s.nodeInitialise now = .ok s') : Continues known s s' := by
  have loop : ∀ (interfaces : List Nat) (s : DupAddrDet),
      interfaces.foldlM (detectLinkLocal now) s = .ok s' → Continues known s s' := by
    intro interfaces
    induction interfaces with
    | nil =>
        intro s done
        cases done
        exact .refl _
    | cons ifIndex rest ih =>
        intro s done
        rw [List.foldlM_cons] at done
        obtain ⟨middle, first, done⟩ := bind_eq_ok.mp done
        obtain ⟨⟨linkLocal, chosen⟩, found, first⟩ := bind_eq_ok.mp first
        refine ((linkLocalAddr_continues found).trans ?_).trans (ih middle done)
        exact newDetection_continues dupAddrDetection_continues first
  have erased : Continues known s
      { s with timerMsgs := s.timerMsgs.eraseP (·.kind = .initialiseNode) } :=
    .of_subset rfl (fun _ inside => List.mem_of_mem_eraseP inside) fun _ _ _ assigned => assigned
  exact erased.trans (loop _ _ done)

theorem detectDupAddress_continues
    (done : s.detectDupAddress now ifIndex addr = .ok s') : Continues known s s' := by
  obtain ⟨ie, -, done⟩ := bind_eq_ok.mp done
  refine Continues.trans ?_ (newDetection_continues dupAddrDetection_continues done)
  exact .of_same rfl rfl rfl

variable {targetAddr : Ipv6Addr} {inputPort : Nat} {stop : Bool}

theorem checkDupAddrDetected_fst
    (checks : s.checkDupAddrDetected targetAddr inputPort = .ok (stop, s')) : stop = false := by
  obtain ⟨ie, -, checks⟩ := bind_eq_ok.mp checks
  split at checks
  · obtain ⟨left, -, checks⟩ := bind_eq_ok.mp checks
    obtain ⟨after, -, checks⟩ := bind_eq_ok.mp checks
    obtain ⟨_, -, checks⟩ := bind_eq_ok.mp checks
    cases checks
    rfl
  · cases checks
    rfl

theorem checkDupAddrDetected_continues (checks : s.checkDupAddrDetected targetAddr inputPort = .ok (stop, s')) :
    Continues known s s' := by
  obtain ⟨ie, -, checks⟩ := bind_eq_ok.mp checks
  split at checks
  · obtain ⟨left, leaves, checks⟩ := bind_eq_ok.mp checks
    obtain ⟨_, -, leaves⟩ := bind_eq_ok.mp leaves
    cases leaves
    obtain ⟨⟨removed, after⟩, removes, checks⟩ := bind_eq_ok.mp checks
    obtain ⟨_, -, checks⟩ := bind_eq_ok.mp checks
    cases checks
    unfold removeTentativeAddress at removes
    split at removes
    · obtain ⟨_, -, removes⟩ := bind_eq_ok.mp removes
      obtain ⟨ipv6, -, removes⟩ := bind_eq_ok.mp removes
      cases removes
      exact .of_subset rfl (fun _ inside => (List.mem_filter.mp inside).1)
        fun _ _ _ assigned => assigned
    · cases removes
      exact .of_same rfl rfl rfl
  · cases checks
    exact .refl s

theorem toAddrResln_continues (other : ∀ q i a, message ≠ .addrAssigned q i a) :
    Continues known s (s.toAddrResln message) :=
  .of_subset rfl (fun _ inside => inside) fun q i a assigned => assigned_append assigned (other q i a)

theorem rtrAdReceived_continues (done : s.rtrAdReceived ifIndex = .ok s') : Continues known s s' := by
  obtain ⟨_, -, done⟩ := bind_eq_ok.mp done
  obtain ⟨ie, -, done⟩ := bind_eq_ok.mp done
  split at done
  · cases done
    exact .of_subset rfl (fun _ inside => List.mem_of_mem_eraseP inside)
      fun _ _ _ assigned => assigned
  · cases done
    exact .refl s

/-- A solicitation is discarded, ignored, or passed on after the check. -/
theorem processNgbrSol_eq_ok {sol : ReceivedNgbrSol} (done : s.processNgbrSol sol = .ok s') :
    s' = s ∨ ∃ middle, s' = middle.toAddrResln (.ngbrSolToAddrResln sol) ∧ (middle = s ∨
      ∃ stop, s.checkDupAddrDetected sol.targetAddr sol.inputPort.toNat = .ok (stop, middle)) := by
  obtain ⟨valid, -, done⟩ := bind_eq_ok.mp done
  split at done
  · cases done
    exact Or.inl rfl
  · split at done
    · obtain ⟨inputPort, port, done⟩ := bind_eq_ok.mp done
      obtain ⟨⟨stop, middle⟩, checks, done⟩ := bind_eq_ok.mp done
      unfold portNo at port
      split at port
      · cases port
      · cases port
        obtain rfl := checkDupAddrDetected_fst checks
        cases done
        exact Or.inr ⟨middle, rfl, Or.inr ⟨false, checks⟩⟩
    · obtain ⟨inputPort, -, done⟩ := bind_eq_ok.mp done
      obtain ⟨ie, -, done⟩ := bind_eq_ok.mp done
      split at done
      · cases done
        exact Or.inl rfl
      · cases done
        exact Or.inr ⟨s, rfl, Or.inl rfl⟩

theorem processNgbrAd_eq_ok {ngbrAdv : ReceivedNgbrAd} (done : s.processNgbrAd ngbrAdv = .ok s') :
    ∃ middle, s' = middle.toAddrResln (.ngbrAdToAddrResln ngbrAdv) ∧ (middle = s ∨
      ∃ stop, s.checkDupAddrDetected ngbrAdv.targetAddr ngbrAdv.inputPort = .ok (stop, middle)) := by
  unfold processNgbrAd at done
  split at done
  · obtain ⟨⟨stop, middle⟩, checks, done⟩ := bind_eq_ok.mp done
    obtain rfl := checkDupAddrDetected_fst checks
    cases done
    exact ⟨middle, rfl, Or.inr ⟨false, checks⟩⟩
  · cases done
    exact ⟨s, rfl, Or.inl rfl⟩

theorem handleMessage_continues {msg : SimTime × DadEvent}
    (done : s.handleMessage msg = .ok s') : Continues known s s' := by
  obtain ⟨now, event⟩ := msg
  cases event with
  | timeout p =>
      obtain ⟨m, found, done⟩ := bind_eq_ok.mp done
      have inside := List.mem_of_find?_eq_some ((deref_eq_ok _ _ _).mp found)
      unfold timerExpired at done
      split at done
      · exact nodeInitialise_continues done
      · exact .of_listed inside (dupAddrDetection_continues done)
      · exact sendRtrSolAfter_continues done
  | detectDupAddress ifIndex addr => exact detectDupAddress_continues done
  | ngbrSol sol =>
      rcases processNgbrSol_eq_ok done with rfl | ⟨middle, rfl, rfl | ⟨stop, checks⟩⟩
      · exact .refl _
      · exact toAddrResln_continues fun _ _ _ => DadOutput.noConfusion
      · exact (checkDupAddrDetected_continues checks).trans
          (toAddrResln_continues fun _ _ _ => DadOutput.noConfusion)
  | ngbrAd ngbrAdv =>
      obtain ⟨middle, rfl, rfl | ⟨stop, checks⟩⟩ := processNgbrAd_eq_ok done
      · exact toAddrResln_continues fun _ _ _ => DadOutput.noConfusion
      · exact (checkDupAddrDetected_continues checks).trans
          (toAddrResln_continues fun _ _ _ => DadOutput.noConfusion)
  | rtrAd ifIndex => exact rtrAdReceived_continues done

variable {events : List (SimTime × DadEvent)}

theorem run_continues (runs : run handleMessage s events = .ok s') : Continues known s s' := by
  induction events generalizing s with
  | nil =>
      cases runs
      exact .refl _
  | cons msg rest ih =>
      rw [run_cons] at runs
      obtain ⟨middle, first, runs⟩ := bind_eq_ok.mp runs
      exact (handleMessage_continues first).trans (ih runs)

/-! ### A detection that ends -/

theorem run_continues_none (runs : run handleMessage s events = .ok s') : Continues (fun _ => False) s s' :=
  run_continues runs

/-- The timer of a detection is gone. -/
def Ended (s : DupAddrDet) (p : Ptr) : Prop := p < s.next ∧ ∀ m ∈ s.timerMsgs, m.ptr ≠ p

/-- A detection whose timer is gone assigns no address in any run. -/
theorem Ended.not_assigned {p : Ptr} (ended : s.Ended p)
    (runs : run handleMessage s events = .ok s') {i : Nat} {a : Ipv6Addr}
    (assigned : .addrAssigned p i a ∈ s'.sent) : .addrAssigned p i a ∈ s.sent := by
  have continues := run_continues_none runs
  rcases continues.assigned p i a assigned with old | ⟨m, inside, same⟩ | listed | fresh
  · exact old
  · exact absurd same (ended.2 m inside)
  · exact listed.elim
  · exact absurd ended.1 (Nat.not_lt_of_le fresh.1)

def Allocated (s : DupAddrDet) : Prop := ∀ m ∈ s.timerMsgs, m.ptr < s.next

theorem Allocated.run (allocated : s.Allocated)
    (runs : Lib.run handleMessage s events = .ok s') : s'.Allocated := by
  have continues := run_continues_none runs
  intro m' inside
  rcases continues.timers m' inside with ⟨m, before, same⟩ | listed | fresh
  · exact same ▸ Nat.lt_of_lt_of_le (allocated m before) continues.next
  · exact listed.elim
  · exact fresh.2

theorem checkDupAddrDetected_ended
    (allocated : s.Allocated) (tentative : s.tentativeAddrAssigned inputPort targetAddr)
    (checks : s.checkDupAddrDetected targetAddr inputPort = .ok (stop, s')) :
    ∃ m ∈ s.timerMsgs, m.detects inputPort targetAddr = true ∧ s'.Ended m.ptr := by
  obtain ⟨ie, found, checks⟩ := bind_eq_ok.mp checks
  rw [interfaceByPortNo, deref_eq_ok] at found
  have inside : ie.ipv6.tentativeAddrAssigned targetAddr = true := by
    obtain ⟨a, listed, same⟩ := tentative
    rw [tentativeAddrs, found] at listed
    exact List.any_eq_true.mpr ⟨a, listed, decide_eq_true same⟩
  rw [if_pos inside] at checks
  obtain ⟨left, leaves, checks⟩ := bind_eq_ok.mp checks
  obtain ⟨_, -, leaves⟩ := bind_eq_ok.mp leaves
  cases leaves
  obtain ⟨⟨removed, after⟩, removes, checks⟩ := bind_eq_ok.mp checks
  obtain ⟨_, was, checks⟩ := bind_eq_ok.mp checks
  rw [assert_eq_ok] at was
  cases checks
  unfold removeTentativeAddress at removes
  split at removes
  · rename_i p tmr arrival timer
    have listed := List.mem_of_find?_eq_some timer
    refine ⟨_, listed, List.find?_some timer, ?_⟩
    obtain ⟨_, -, removes⟩ := bind_eq_ok.mp removes
    obtain ⟨ipv6, -, removes⟩ := bind_eq_ok.mp removes
    cases removes
    refine ⟨allocated _ listed, fun m kept => ?_⟩
    exact of_decide_eq_true (List.mem_filter.mp kept).2
  · cases removes
    cases was

/-! ### Conflicts -/

/-- A message by which another node claims a tentative address of the interface. -/
inductive Conflict (s : DupAddrDet) (ifIndex : Nat) (target : Ipv6Addr) : DadEvent → Prop
  | ngbrSol (sol : ReceivedNgbrSol) (unspecified : sol.srcAddress = .unspecified)
      (port : sol.inputPort = ifIndex) (targets : sol.targetAddr = target)
      (tentative : s.tentativeAddrAssigned ifIndex target) : Conflict s ifIndex target (.ngbrSol sol)
  | ngbrAd (ngbrAdv : ReceivedNgbrAd) (unsolicited : ngbrAdv.solicited = false)
      (port : ngbrAdv.inputPort = ifIndex) (targets : ngbrAdv.targetAddr = target)
      (tentative : s.tentativeAddrAssigned ifIndex target) : Conflict s ifIndex target (.ngbrAd ngbrAdv)

/-- The messages for address resolution. -/
def passedOn (s : DupAddrDet) : List DadOutput :=
  s.sent.filter fun
    | .ngbrSolToAddrResln _ => true
    | .ngbrAdToAddrResln _ => true
    | _ => false

/-- A conflict is dealt with: the address is withdrawn, its detection does not assign it in
any run, and the message stays here. -/
structure Withdraws (s s' : DupAddrDet) (ifIndex : Nat) (target : Ipv6Addr) : Prop where
  withdrawn : ¬ s'.tentativeAddrAssigned ifIndex target
  unassigned : ∀ m ∈ s.timerMsgs, m.detects ifIndex target = true → ∀ events s'',
    run handleMessage s' events = .ok s'' →
      ∀ i a, .addrAssigned m.ptr i a ∈ s''.sent → .addrAssigned m.ptr i a ∈ s'.sent
  kept : s'.passedOn = s.passedOn

theorem checkDupAddrDetected_sent
    (checks : s.checkDupAddrDetected targetAddr inputPort = .ok (stop, s')) : s'.sent = s.sent := by
  obtain ⟨ie, -, checks⟩ := bind_eq_ok.mp checks
  split at checks
  · obtain ⟨left, leaves, checks⟩ := bind_eq_ok.mp checks
    obtain ⟨_, -, leaves⟩ := bind_eq_ok.mp leaves
    cases leaves
    obtain ⟨⟨removed, after⟩, removes, checks⟩ := bind_eq_ok.mp checks
    obtain ⟨_, -, checks⟩ := bind_eq_ok.mp checks
    cases checks
    unfold removeTentativeAddress at removes
    split at removes
    · obtain ⟨_, -, removes⟩ := bind_eq_ok.mp removes
      obtain ⟨ipv6, -, removes⟩ := bind_eq_ok.mp removes
      cases removes
      rfl
    · cases removes
      rfl
  · cases checks
    rfl

theorem passedOn_toAddrResln (same : s'.sent = s.sent)
    (passed : (∃ sol, message = .ngbrSolToAddrResln sol) ∨ ∃ na, message = .ngbrAdToAddrResln na) :
    (s'.toAddrResln message).passedOn ≠ s.passedOn := by
  have grown : (s'.toAddrResln message).passedOn = s.passedOn ++ [message] := by
    unfold passedOn toAddrResln
    rw [List.filter_append, same]
    rcases passed with ⟨sol, rfl⟩ | ⟨na, rfl⟩ <;> rfl
  rw [grown]
  intro equal
  have lengths := congrArg List.length equal
  simp at lengths

/-- No conflict is dealt with: what passes the validation and the assertion is passed on. -/
theorem conflict_not_withdrawn (now : SimTime) {ifIndex : Nat} {target : Ipv6Addr}
    {event : DadEvent} (conflict : s.Conflict ifIndex target event) :
    ¬ ∃ s', s.handleMessage (now, event) = .ok s' ∧ s.Withdraws s' ifIndex target := by
  rintro ⟨s', handled, withdraws⟩
  cases conflict with
  | ngbrSol sol unspecified port targets tentative =>
      rcases processNgbrSol_eq_ok handled with rfl | ⟨middle, rfl, rfl | ⟨stop, checks⟩⟩
      · exact withdraws.withdrawn tentative
      · exact passedOn_toAddrResln rfl (Or.inl ⟨sol, rfl⟩) withdraws.kept
      · have same := checkDupAddrDetected_sent checks
        exact passedOn_toAddrResln same (Or.inl ⟨sol, rfl⟩) withdraws.kept
  | ngbrAd ngbrAdv unsolicited port targets tentative =>
      obtain ⟨middle, rfl, rfl | ⟨stop, checks⟩⟩ := processNgbrAd_eq_ok handled
      · exact passedOn_toAddrResln rfl (Or.inr ⟨ngbrAdv, rfl⟩) withdraws.kept
      · have same := checkDupAddrDetected_sent checks
        exact passedOn_toAddrResln same (Or.inr ⟨ngbrAdv, rfl⟩) withdraws.kept

theorem Conflict.checks {now : SimTime} {ifIndex : Nat} {target : Ipv6Addr} {event : DadEvent}
    (conflict : s.Conflict ifIndex target event) (handled : s.handleMessage (now, event) = .ok s') :
    s' = s ∨ ∃ middle message, s.checkDupAddrDetected target ifIndex = .ok (false, middle) ∧
      s' = middle.toAddrResln message ∧ ∀ q i a, message ≠ .addrAssigned q i a := by
  cases conflict with
  | ngbrSol sol unspecified port targets tentative =>
      obtain ⟨valid, -, handled⟩ := bind_eq_ok.mp handled
      rw [if_pos unspecified, port, targets] at handled
      split at handled
      · cases handled
        exact Or.inl rfl
      · obtain ⟨inputPort, numbered, handled⟩ := bind_eq_ok.mp handled
        cases (if_neg (Int.not_lt.mpr (Int.natCast_nonneg ifIndex))).symm.trans numbered
        obtain ⟨⟨stop, middle⟩, checks, handled⟩ := bind_eq_ok.mp handled
        obtain rfl := checkDupAddrDetected_fst checks
        cases handled
        exact Or.inr ⟨middle, _, checks, rfl, fun _ _ _ => DadOutput.noConfusion⟩
  | ngbrAd ngbrAdv unsolicited port targets tentative =>
      replace handled : s.processNgbrAd ngbrAdv = .ok s' := handled
      unfold processNgbrAd at handled
      rw [if_pos unsolicited, port, targets] at handled
      obtain ⟨⟨stop, middle⟩, checks, handled⟩ := bind_eq_ok.mp handled
      obtain rfl := checkDupAddrDetected_fst checks
      cases handled
      exact Or.inr ⟨middle, _, checks, rfl, fun _ _ _ => DadOutput.noConfusion⟩

theorem Conflict.tentative {ifIndex : Nat} {target : Ipv6Addr} {event : DadEvent}
    (conflict : s.Conflict ifIndex target event) : s.tentativeAddrAssigned ifIndex target := by
  cases conflict <;> assumption

/-- Whatever led to a conflict: if it is not discarded, then the detection of the address has ended, and assigns nothing
any more, whatever follows. -/
theorem conflict_ends_detection {start u : DupAddrDet} {before after : List (SimTime × DadEvent)} (now : SimTime)
    {ifIndex : Nat} {target : Ipv6Addr} {event : DadEvent} (reaches : run handleMessage start before = .ok s)
    (allocated : start.Allocated) (conflict : s.Conflict ifIndex target event)
    (handled : s.handleMessage (now, event) = .ok s') (later : run handleMessage s' after = .ok u) :
    s' = s ∨ ∃ m ∈ s.timerMsgs, m.detects ifIndex target = true ∧
      ∀ i a, .addrAssigned m.ptr i a ∈ u.sent → .addrAssigned m.ptr i a ∈ s.sent := by
  obtain discarded | ⟨middle, message, checks, rfl, other⟩ := conflict.checks handled
  · exact Or.inl discarded
  · obtain ⟨m, listed, detects, ended⟩ :=
      checkDupAddrDetected_ended (allocated.run reaches) conflict.tentative checks
    refine Or.inr ⟨m, listed, detects, fun i a assigned => ?_⟩
    have before := Ended.not_assigned (s := middle.toAddrResln message) ended later assigned
    rw [← checkDupAddrDetected_sent checks]
    exact assigned_append before (other _ i a)

def exampleHost (tentativeAddrs : List InterfaceAddress) : DupAddrDet where
  interfaces := [{
    llAddrStr := "00:00:00:00:00:01"
    ipv6 := ⟨[], tentativeAddrs⟩
    retransTimer := 1000
    dupAddrDetectTrans := 1
    interfaceToken := ⟨0, 1, 64⟩
    manualLinkLocal := false
    initStarted := false
    rtrSolicited := false }]
  isRouter := false
  odad := false
  awayFromHome := false
  uniform := fun _ => 0
  full := fun _ => false
  multicastGroup := []
  timerMsgs := [⟨0, .initialiseNode, some 0⟩]
  stateEntered := false
  next := 1
  sent := []

/-- The solicitation of another node that detects duplicates of an address. -/
def exampleSol (target : Ipv6Addr) : ReceivedNgbrSol where
  srcAddress := .unspecified
  inputPort := 0
  targetAddr := target
  srcLLAddr := ""
  destAddress := target.solNodeAddr
  hopLimit := ndHopLimit
  code := 0

theorem solicitation_of_link_local : ∃ s, (exampleHost []).handleMessage (0, .timeout 0) = .ok s ∧
    ¬ ∃ s', s.handleMessage (1 / 2, .ngbrSol (exampleSol ⟨0xFE800000, 0, 0, 1⟩)) = .ok s' ∧
      s.Withdraws s' 0 ⟨0xFE800000, 0, 0, 1⟩ :=
  ⟨_, rfl, conflict_not_withdrawn (1 / 2)
    (.ngbrSol (exampleSol ⟨0xFE800000, 0, 0, 1⟩) rfl rfl rfl ⟨_, List.mem_singleton_self _, rfl⟩)⟩

theorem solicited_detection_ended : ∃ s s', (exampleHost []).handleMessage (0, .timeout 0) = .ok s ∧
    s.handleMessage (1 / 2, .ngbrSol (exampleSol ⟨0xFE800000, 0, 0, 1⟩)) = .ok s' ∧
      (s' = s ∨ ∃ m ∈ s.timerMsgs, m.detects 0 ⟨0xFE800000, 0, 0, 1⟩ = true ∧
        ∀ i a, .addrAssigned m.ptr i a ∈ s'.sent → .addrAssigned m.ptr i a ∈ s.sent) := by
  have reaches : run handleMessage (exampleHost []) [(0, .timeout 0)] = .ok _ := rfl
  exact ⟨_, _, rfl, rfl, conflict_ends_detection (1 / 2) reaches (List.forall_mem_singleton.mpr Nat.one_pos)
    (.ngbrSol (exampleSol _) rfl rfl rfl ⟨_, List.mem_singleton_self _, rfl⟩) rfl (run_nil ..)⟩

/-- The solicitation of a link local address under detection is passed on. -/
theorem conflict_passed_on :
    ¬ ∀ tentativeAddrs events s event target,
      run handleMessage (exampleHost tentativeAddrs) events = .ok s → s.Conflict 0 target event →
        ∃ s', s.handleMessage (1 / 2, event) = .ok s' ∧ s.Withdraws s' 0 target := by
  intro claim
  obtain ⟨s', handled, withdraws⟩ := claim [] [(0, .timeout 0)] _
    (.ngbrSol (exampleSol ⟨0xFE800000, 0, 0, 1⟩)) ⟨0xFE800000, 0, 0, 1⟩ rfl
    (.ngbrSol _ rfl rfl rfl ⟨_, List.mem_singleton_self _, rfl⟩)
  cases handled
  have kept := congrArg List.length withdraws.kept
  exact absurd kept (by decide)

end DupAddrDet

end IPv6Suite
