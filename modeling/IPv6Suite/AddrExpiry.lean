import IPv6Suite.AddrConfTimer

namespace IPv6Suite

open Lib
open AddrConf

/-- By interface and address, the time of the last lifetime update plus that lifetime. -/
abbrev DueTimes := Nat → Ipv6Addr → Nat

namespace DueTimes

def set (due : DueTimes) (ifIndex : Nat) (addr : Ipv6Addr) (t : Nat) : DueTimes :=
  fun i a => if i = ifIndex ∧ a = addr then t else due i a

variable (due : DueTimes) {ifIndex i : Nat} {addr a : Ipv6Addr} (t : Nat)

theorem set_self : due.set ifIndex addr t ifIndex addr = t := if_pos ⟨rfl, rfl⟩

theorem set_of_ne (apart : i = ifIndex → a ≠ addr) : due.set ifIndex addr t i a = due i a :=
  if_neg fun same => apart same.1 same.2

end DueTimes

namespace AddrConf

/-- `a` is an address of the interface that can expire and has a finite lifetime. -/
def Finite (s : AddrConf) (ifIndex : Nat) (a : InterfaceAddress) : Prop :=
  ∃ data, s.interfaces[ifIndex]? = some data ∧ a ∈ data.configured ∧
    a.storedLifetime ≠ validLifetimeInfinity

def Distinct (s : AddrConf) : Prop :=
  ∀ (ifIndex : Nat) (data : IPv6InterfaceData), s.interfaces[ifIndex]? = some data → data.Distinct

/-- The timer was set after time 0 and has not arrived in the past. -/
structure Running (tmr : CTimerMessage) (now : Nat) : Prop where
  positive : 0 < tmr.sendingTime
  sent : tmr.sendingTime ≤ now
  pending : now ≤ tmr.arrivalTime
  lifetime : tmr.arrivalTime < tmr.sendingTime + 2 ^ 32

/-- The lifetime stored when the timer was set does not end after the due time, and
neither does the timer. -/
def OnTime (s : AddrConf) (due : DueTimes) (ifIndex : Nat) (a : InterfaceAddress) : Prop :=
  ∃ tmr, s.addrExpiryTmr = some tmr ∧
    tmr.sendingTime + a.storedLifetime.toNat ≤ due ifIndex a.addr ∧
    tmr.arrivalTime ≤ due ifIndex a.addr

def Left (s : AddrConf) (due : DueTimes) (ifIndex : Nat) (a : InterfaceAddress) : Prop :=
  s.now + a.storedLifetime.toNat ≤ due ifIndex a.addr

/-- The state in which `rescheduleAddrConfTimer(m)` is called: the addresses just
updated have at least the lifetime `m`. -/
structure Pending (s : AddrConf) (due : DueTimes) (m : BitVec 32) : Prop where
  distinct : s.Distinct
  running : ∀ tmr, s.addrExpiryTmr = some tmr → Running tmr s.now
  finite : ∀ ifIndex a, s.Finite ifIndex a →
    s.OnTime due ifIndex a ∨ m ≤ a.storedLifetime ∧ s.Left due ifIndex a

/-- The invariant between the events. -/
structure Punctual (s : AddrConf) (due : DueTimes) : Prop where
  distinct : s.Distinct
  running : ∀ tmr, s.addrExpiryTmr = some tmr → Running tmr s.now
  finite : ∀ ifIndex a, s.Finite ifIndex a → s.OnTime due ifIndex a

variable {s s' : AddrConf} {due : DueTimes} {m : BitVec 32}

theorem Punctual.toPending (punctual : s.Punctual due) (m : BitVec 32) : s.Pending due m :=
  ⟨punctual.distinct, punctual.running, fun i a finite => Or.inl (punctual.finite i a finite)⟩

/-- Nothing finite is at least infinite. -/
theorem Pending.toPunctual (pending : s.Pending due validLifetimeInfinity) : s.Punctual due := by
  refine ⟨pending.distinct, pending.running, fun i a finite => ?_⟩
  rcases pending.finite i a finite with onTime | ⟨least, -⟩
  · exact onTime
  · obtain ⟨-, -, -, below⟩ := finite
    exact absurd (lifetime_lt_infinity.mpr below) (BitVec.not_lt.mpr least)

theorem Punctual.now_le (punctual : s.Punctual due) {ifIndex : Nat} {a : InterfaceAddress}
    (finite : s.Finite ifIndex a) : s.now ≤ due ifIndex a.addr := by
  obtain ⟨tmr, set, -, arrival⟩ := punctual.finite ifIndex a finite
  exact Nat.le_trans (punctual.running tmr set).pending arrival

theorem running_reschedule {now : Nat} (later : 0 < now) (lifetime : BitVec 32) :
    Running ⟨now, now + lifetime.toNat⟩ now :=
  ⟨later, Nat.le_refl _, Nat.le_add_right _ _, Nat.add_lt_add_left lifetime.isLt _⟩

theorem remainingTime_eq {tmr : CTimerMessage} {now : Nat} (running : Running tmr now) :
    tmr.remainingTime now = .ok (tmr.arrivalTime - now) := by
  unfold CTimerMessage.remainingTime
  rw [if_neg (Nat.not_le.mpr running.positive), assert_pos running.pending]
  rfl

theorem elapsedTime_eq {tmr : CTimerMessage} {now : Nat} (running : Running tmr now) :
    tmr.elapsedTime now = .ok (now - tmr.sendingTime) := by
  unfold CTimerMessage.elapsedTime
  rw [if_neg (Nat.not_le.mpr running.positive), assert_pos running.sent]
  rfl

/-! ### The loops over the interfaces -/

theorem finite_elapseLifetimes {seconds : BitVec 32} {ifIndex : Nat} {a' : InterfaceAddress}
    (finite : (s.elapseLifetimes seconds).Finite ifIndex a') : ∃ a, s.Finite ifIndex a ∧ a' = a.elapse seconds := by
  obtain ⟨data', located, inside, notInfinite⟩ := finite
  simp only [elapseLifetimes, List.getElem?_map, Option.map_eq_some_iff] at located
  obtain ⟨data, located, rfl⟩ := located
  rw [IPv6InterfaceData.configured_elapseLifetimes] at inside
  obtain ⟨a, member, rfl⟩ := List.mem_map.mp inside
  exact ⟨a, ⟨data, located, member, InterfaceAddress.elapse_finite notInfinite⟩, rfl⟩

theorem distinct_elapseLifetimes (distinct : s.Distinct) (seconds : BitVec 32) :
    (s.elapseLifetimes seconds).Distinct := by
  intro i data' located
  simp only [elapseLifetimes, List.getElem?_map, Option.map_eq_some_iff] at located
  obtain ⟨data, located, rfl⟩ := located
  exact IPv6InterfaceData.distinct_elapseLifetimes (distinct i data located)

theorem mapM_getElem? {α β : Type} {f : α → Exec β} {xs : List α} {ys : List β}
    (done : xs.mapM f = .ok ys) {i : Nat} {y : β} (located : ys[i]? = some y) :
    ∃ x, xs[i]? = some x ∧ f x = .ok y := by
  induction xs generalizing ys i with
  | nil =>
      cases done
      simp at located
  | cons x rest ih =>
      rw [List.mapM_cons] at done
      obtain ⟨first, head, done⟩ := bind_eq_ok.mp done
      obtain ⟨others, tail, done⟩ := bind_eq_ok.mp done
      cases done
      cases i with
      | zero =>
          cases located
          exact ⟨x, rfl, head⟩
      | succ i => exact ih tail located

theorem invalidateAddresses_spec (distinct : s.Distinct) (done : s.invalidateAddresses = .ok s') :
    s'.Distinct ∧ s'.addrExpiryTmr = s.addrExpiryTmr ∧ s'.now = s.now ∧
      ∀ ifIndex a', s'.Finite ifIndex a' → ∃ a, s.Finite ifIndex a ∧ a.value = a'.value := by
  obtain ⟨interfaces, mapped, done⟩ := bind_eq_ok.mp done
  cases done
  refine ⟨fun i data' located => ?_, rfl, rfl, fun i a' finite => ?_⟩
  · obtain ⟨data, before, invalidated⟩ := mapM_getElem? mapped located
    exact (IPv6InterfaceData.invalidateAddresses_within (distinct i data before) invalidated).1
  · obtain ⟨data', located, inside, notInfinite⟩ := finite
    obtain ⟨data, before, invalidated⟩ := mapM_getElem? mapped located
    obtain ⟨a, member, same⟩ := (IPv6InterfaceData.invalidateAddresses_within
      (distinct i data before) invalidated).2 a' inside
    exact ⟨a, ⟨data, before, member, fun infinite => notInfinite
      ((congrArg (·.2.1) same).symm.trans infinite)⟩, same⟩

theorem minValidLifetime_le (done : s.minValidLifetime = .ok m) :
    ∀ ifIndex a, s.Finite ifIndex a → m ≤ a.storedLifetime := by
  have general : ∀ (l : List IPv6InterfaceData) (start minimum : BitVec 32),
      l.foldlM (fun (minLifetime : BitVec 32) (data : IPv6InterfaceData) => do
        let lifetime ← data.minValidLifetime
        Exec.assert (lifetime ≠ 0)
        return if lifetime < minLifetime then lifetime else minLifetime) start =
          (.ok minimum : Exec (BitVec 32)) →
      minimum ≤ start ∧ ∀ data ∈ l, ∀ a ∈ data.configured, minimum ≤ a.storedLifetime := by
    intro l
    induction l with
    | nil =>
        intro start minimum done
        cases done
        exact ⟨BitVec.le_refl _, fun data inside => absurd inside List.not_mem_nil⟩
    | cons data rest ih =>
        intro start minimum done
        rw [List.foldlM_cons] at done
        obtain ⟨next, first, done⟩ := bind_eq_ok.mp done
        obtain ⟨lifetime, shortest, first⟩ := bind_eq_ok.mp first
        obtain ⟨_, -, picked⟩ := bind_eq_ok.mp first
        cases picked
        obtain ⟨below, others⟩ := ih _ _ done
        have least : minimum ≤ start ∧ minimum ≤ lifetime := by
          simp only [BitVec.le_def] at below ⊢
          split at below
          · rename_i less
            rw [BitVec.lt_def] at less
            omega
          · rename_i least
            rw [BitVec.lt_def] at least
            omega
        refine ⟨least.1, fun other inside a member => ?_⟩
        rcases List.mem_cons.mp inside with rfl | later
        · exact BitVec.le_trans least.2
            ((IPv6InterfaceData.minValidLifetime_le shortest a member).2)
        · exact others other later a member
  obtain ⟨minimum, folded, done⟩ := bind_eq_ok.mp done
  obtain ⟨_, -, done⟩ := bind_eq_ok.mp done
  cases done
  rintro i a ⟨data, located, inside, -⟩
  exact (general _ _ _ folded).2 data (List.mem_of_getElem? located) a inside

/-! ### Restarts of the timer -/

/-- Whatever an elapse skips was updated just now. -/
def SkipsUpdated (s : AddrConf) (due : DueTimes) : Prop :=
  ∀ ifIndex a, s.Finite ifIndex a → a.updated = true → s.Left due ifIndex a

/-- Every finite address has its stored lifetime left. -/
def AllLeft (s : AddrConf) (due : DueTimes) : Prop :=
  ∀ ifIndex a, s.Finite ifIndex a → s.Left due ifIndex a

/-- The restart takes into account all time that has passed: it elapses every lifetime
but those updated just now, or there is none to elapse. -/
def Accounts (s : AddrConf) (due : DueTimes) (m : BitVec 32) : Prop :=
  match s.addrExpiryTmr with
  | none => ∀ minValid, s.minValidLifetime = .ok minValid → minValid ≠ validLifetimeInfinity →
      0 < s.now
  | some tmr => ∀ remaining, tmr.remainingTime s.now = .ok remaining →
      if m.toNat < remaining then s.SkipsUpdated due
      else ∀ minValid, s.minValidLifetime = .ok minValid → remaining < minValid.toNat →
        s.AllLeft due

theorem onTime_reschedule {ifIndex : Nat} {a : InterfaceAddress} {lifetime : BitVec 32}
    (left : s.Left due ifIndex a) (timer : s.now + lifetime.toNat ≤ due ifIndex a.addr) :
    (s.reschedule lifetime).OnTime due ifIndex a := ⟨_, rfl, left, timer⟩

/-- Elapsing counts exactly the time since the timer was set. -/
theorem left_elapse {tmr : CTimerMessage} (running : Running tmr s.now)
    (set : s.addrExpiryTmr = some tmr) {ifIndex : Nat} {a : InterfaceAddress}
    (finite : s.Finite ifIndex a) (skips : s.SkipsUpdated due)
    (kept : s.OnTime due ifIndex a ∨ s.Left due ifIndex a) :
    s.Left due ifIndex (a.elapse (BitVec.ofNat 32 (s.now - tmr.sendingTime))) := by
  obtain ⟨positive, sent, pending, bound⟩ := running
  obtain ⟨-, -, -, notInfinite⟩ := id finite
  have seconds : (BitVec.ofNat 32 (s.now - tmr.sendingTime)).toNat = s.now - tmr.sendingTime := by
    rw [BitVec.toNat_ofNat]
    exact Nat.mod_eq_of_lt (by omega)
  unfold Left
  rw [InterfaceAddress.addr_elapse]
  cases flag : a.updated with
  | true =>
      rw [InterfaceAddress.elapse_updated flag]
      exact skips ifIndex a finite flag
  | false =>
      rw [InterfaceAddress.elapse_stored notInfinite flag, seconds]
      rcases kept with ⟨tmr', set', stored, arrival⟩ | left
      · rw [set, Option.some.injEq] at set'
        subst set'
        omega
      · unfold Left at left
        omega

/-- A call that takes all time into account leaves every finite address on time. -/
theorem rescheduleAddrConfTimer_punctual (pending : s.Pending due m) (accounts : s.Accounts due m)
    (done : s.rescheduleAddrConfTimer m = .ok s') : s'.Punctual due := by
  unfold rescheduleAddrConfTimer at done
  unfold Accounts at accounts
  cases set : s.addrExpiryTmr with
  | none =>
      simp only [set] at done accounts
      obtain ⟨minValid, shortest, done⟩ := bind_eq_ok.mp done
      have left : s.AllLeft due := by
        intro i a finite
        rcases pending.finite i a finite with ⟨tmr, set', -⟩ | ⟨-, left⟩
        · rw [set] at set'
          cases set'
        · exact left
      have least := minValidLifetime_le shortest
      split at done
      · rename_i infinite
        cases done
        subst infinite
        exact Pending.toPunctual ⟨pending.distinct, pending.running, fun i a finite =>
          Or.inr ⟨least i a finite, left i a finite⟩⟩
      · rename_i finite
        cases done
        refine ⟨pending.distinct, fun tmr same => ?_, fun i a finite => ?_⟩
        · cases same
          exact running_reschedule (accounts minValid shortest finite) minValid
        · have short := BitVec.le_def.mp (least i a finite)
          have rest := left i a finite
          unfold Left at rest
          exact onTime_reschedule rest (by omega)
  | some tmr =>
      have running := pending.running tmr set
      have after : 0 < s.now := Nat.lt_of_lt_of_le running.positive running.sent
      simp only [set, remainingTime_eq running, elapsedTime_eq running, ok_bind] at done accounts
      have branch := accounts _ rfl
      split at done
      · rename_i shorter
        rw [if_pos shorter] at branch
        cases done
        refine ⟨distinct_elapseLifetimes pending.distinct _, fun tmr' same => ?_,
          fun i a' finite' => ?_⟩
        · cases same
          exact running_reschedule after m
        · obtain ⟨a, finite, rfl⟩ := finite_elapseLifetimes finite'
          have kept := pending.finite i a finite
          refine onTime_reschedule (left_elapse running set finite branch (kept.imp_right And.right)) ?_
          rw [InterfaceAddress.addr_elapse]
          change s.now + m.toNat ≤ _
          rcases kept with ⟨tmr', set', -, arrival⟩ | ⟨least, left⟩
          · rw [set, Option.some.injEq] at set'
            subst set'
            omega
          · have short := BitVec.le_def.mp least
            unfold Left at left
            omega
      · rename_i longer
        rw [if_neg longer] at branch
        obtain ⟨minValid, shortest, done⟩ := bind_eq_ok.mp done
        have least := minValidLifetime_le shortest
        split at done
        · rename_i restarts
          cases done
          refine ⟨pending.distinct, fun tmr' same => ?_, fun i a finite => ?_⟩
          · cases same
            exact running_reschedule after minValid
          · have short := BitVec.le_def.mp (least i a finite)
            have left := branch minValid shortest restarts i a finite
            refine onTime_reschedule left ?_
            unfold Left at left
            omega
        · cases done
          refine ⟨pending.distinct, pending.running, fun i a finite => ?_⟩
          rcases pending.finite i a finite with onTime | ⟨least, left⟩
          · exact onTime
          · have short := BitVec.le_def.mp least
            have sent := running.sent
            unfold Left at left
            exact ⟨tmr, set, by omega, by omega⟩

theorem lifetimeExpired_punctual (punctual : s.Punctual due) (skips : s.SkipsUpdated due)
    (done : s.lifetimeExpired = .ok s') : s'.Punctual due := by
  simp only [lifetimeExpired, bind_eq_ok, deref_eq_ok] at done
  obtain ⟨tmr, set, elapsed, counted, middle, invalidated, minStored, shortest, _, -, done⟩ := done
  have running := punctual.running tmr set
  rw [elapsedTime_eq running] at counted
  cases counted
  cases done
  obtain ⟨distinct, -, now, values⟩ :=
    invalidateAddresses_spec (distinct_elapseLifetimes punctual.distinct _) invalidated
  refine ⟨distinct, fun tmr' same => ?_, fun i a'' finite'' => ?_⟩
  · cases same
    refine running_reschedule ?_ minStored
    rw [now]
    exact Nat.lt_of_lt_of_le running.positive running.sent
  · obtain ⟨a', finite', same⟩ := values i a'' finite''
    obtain ⟨a, finite, rfl⟩ := finite_elapseLifetimes finite'
    have left := left_elapse running set finite skips (Or.inl (punctual.finite i a finite))
    have least := BitVec.le_def.mp (minValidLifetime_le shortest i a'' finite'')
    have addr := congrArg (·.1.addr) same
    have stored := congrArg (·.2.1) same
    simp only [InterfaceAddress.value] at addr stored
    have left' : middle.Left due i a'' := by
      unfold Left at left ⊢
      rw [now, ← addr, ← stored]
      exact left
    refine onTime_reschedule left' ?_
    unfold Left at left'
    omega

/-! ### Assignments and updates -/

theorem pushAddress_pending {addr : InterfaceAddress} {ifIndex : Nat} {reallocates : Bool}
    (punctual : s.Punctual due) (done : s.pushAddress addr ifIndex reallocates = .ok s') :
    s'.Pending (due.set ifIndex addr.addr (s.now + addr.storedLifetime.toNat)) addr.storedLifetime := by
  simp only [pushAddress, bind_eq_ok, deref_eq_ok, assert_eq_ok] at done
  obtain ⟨data, located, _, absent, data', tentative, _, -, done⟩ := done
  cases done
  have same : data'.inetAddrs = data.inetAddrs := by
    split at tentative
    · obtain ⟨_, -, removed⟩ := bind_eq_ok.mp tentative
      cases removed
      rfl
    · cases tentative
      rfl
  have distinct : data'.Distinct := by
    unfold IPv6InterfaceData.Distinct
    rw [same]
    exact punctual.distinct ifIndex data located
  have absent' : data'.addrAssigned addr.addr = false := by
    unfold IPv6InterfaceData.addrAssigned
    rw [same]
    exact absent
  have inside := (List.getElem?_eq_some_iff.mp located).1
  refine ⟨fun i other found => ?_, punctual.running, fun i a finite => ?_⟩
  · by_cases equal : ifIndex = i
    · subst equal
      rw [List.getElem?_set_self inside, Option.some.injEq] at found
      rw [← found]
      exact IPv6InterfaceData.distinct_pushBack distinct absent'
    · rw [List.getElem?_set_ne equal] at found
      exact punctual.distinct i other found
  · obtain ⟨other, found, member, notInfinite⟩ := finite
    by_cases equal : ifIndex = i
    · subst equal
      rw [List.getElem?_set_self inside, Option.some.injEq] at found
      subst found
      rcases IPv6InterfaceData.configured_pushBack member with new | ⟨old, before, values⟩
      · have stored := congrArg (·.2.1) new
        have address := congrArg (·.1.addr) new
        simp only [InterfaceAddress.value] at stored address
        refine Or.inr ⟨BitVec.le_of_eq stored.symm, ?_⟩
        unfold Left
        rw [address, DueTimes.set_self, stored]
      · have stored := congrArg (·.2.1) values
        have address := congrArg (·.1.addr) values
        simp only [InterfaceAddress.value] at stored address
        unfold IPv6InterfaceData.configured at before
        rw [same] at before
        have apart : a.addr ≠ addr.addr := fun equal => by
          have differs := List.any_eq_false.mp absent old (List.mem_of_mem_drop before)
          exact differs (decide_eq_true (address.trans equal))
        have finite : s.Finite ifIndex old :=
          ⟨data, located, before, fun infinite => notInfinite (stored.symm.trans infinite)⟩
        obtain ⟨tmr, set, sending, arrival⟩ := punctual.finite ifIndex old finite
        refine Or.inl ⟨tmr, set, ?_, ?_⟩
        · rw [DueTimes.set_of_ne _ _ fun _ => apart, ← address, ← stored]
          exact sending
        · rw [DueTimes.set_of_ne _ _ fun _ => apart, ← address]
          exact arrival
    · rw [List.getElem?_set_ne equal] at found
      obtain ⟨tmr, set, kept⟩ := punctual.finite i a ⟨other, found, member, notInfinite⟩
      refine Or.inl ⟨tmr, set, ?_⟩
      rw [DueTimes.set_of_ne _ _ fun same => absurd same.symm equal]
      exact kept

def updatedAddr (s : AddrConf) (u : LifetimeUpdate) : Option InterfaceAddress :=
  s.interfaces[u.ifIndex]?.bind (·.inetAddrs[u.index]?)

def dueAfterUpdate (s : AddrConf) (due : DueTimes) (u : LifetimeUpdate) : DueTimes :=
  match s.updatedAddr u with
  | some a => due.set u.ifIndex a.addr (s.now + u.validLifetime.toNat)
  | none => due

def dueAfterUpdates : AddrConf → DueTimes → List LifetimeUpdate → DueTimes
  | _, due, [] => due
  | s, due, u :: rest => dueAfterUpdates (s.update u) (s.dueAfterUpdate due u) rest

theorem distinct_update (distinct : s.Distinct) (u : LifetimeUpdate) : (s.update u).Distinct := by
  intro i data' located
  simp only [update, List.getElem?_modify, Option.map_eq_map, Option.map_eq_some_iff] at located
  obtain ⟨data, before, same⟩ := located
  have whole := distinct i data before
  split at same
  · rw [← same]
    unfold IPv6InterfaceData.Distinct at *
    change (List.map _ (List.modify _ _ _)).Nodup
    rw [IPv6InterfaceData.map_addr_modify (by intro a; rfl)]
    exact whole
  · rw [← same]
    exact whole

theorem update_pending {u : LifetimeUpdate} (pending : s.Pending due m)
    (least : m ≤ u.validLifetime) : (s.update u).Pending (s.dueAfterUpdate due u) m := by
  refine ⟨distinct_update pending.distinct u, pending.running, fun i a' finite' => ?_⟩
  obtain ⟨data', located, inside, notInfinite⟩ := finite'
  simp only [update, List.getElem?_modify, Option.map_eq_map, Option.map_eq_some_iff] at located
  obtain ⟨data, before, same⟩ := located
  have unchanged : ∀ a, s.Finite i a → s.dueAfterUpdate due u i a.addr = due i a.addr →
      (s.update u).OnTime (s.dueAfterUpdate due u) i a ∨
        m ≤ a.storedLifetime ∧ (s.update u).Left (s.dueAfterUpdate due u) i a := by
    intro a finite sameDue
    rcases pending.finite i a finite with ⟨tmr, set, kept⟩ | ⟨short, left⟩
    · refine Or.inl ⟨tmr, set, ?_⟩
      rw [sameDue]
      exact kept
    · refine Or.inr ⟨short, ?_⟩
      unfold Left at left ⊢
      rw [sameDue]
      exact left
  split at same
  · rename_i here
    subst here
    rw [← same] at inside
    unfold IPv6InterfaceData.configured at inside
    obtain ⟨j, found⟩ := List.mem_iff_getElem?.mp inside
    simp only [List.getElem?_drop, List.getElem?_modify, Option.map_eq_map,
      Option.map_eq_some_iff] at found
    obtain ⟨a, position, value⟩ := found
    split at value
    · rename_i index
      subst value
      have target : s.updatedAddr u = some a := by
        rw [updatedAddr, before, Option.bind_some, index]
        exact position
      refine Or.inr ⟨least, ?_⟩
      unfold Left dueAfterUpdate
      rw [target]
      exact Nat.le_of_eq (DueTimes.set_self due _).symm
    · rename_i index
      subst value
      have member : a ∈ data.configured :=
        List.mem_iff_getElem?.mpr ⟨j, List.getElem?_drop.trans position⟩
      refine unchanged a ⟨data, before, member, notInfinite⟩ ?_
      unfold dueAfterUpdate
      cases target : s.updatedAddr u with
      | none => rfl
      | some b =>
          rw [updatedAddr, before, Option.bind_some] at target
          refine DueTimes.set_of_ne _ _ fun _ equal => index ?_
          have distinct := pending.distinct u.ifIndex data before
          have firstAddr : (data.inetAddrs.map (·.addr))[u.index]? = some b.addr := by
            rw [List.getElem?_map, target]
            rfl
          have secondAddr : (data.inetAddrs.map (·.addr))[1 + j]? = some b.addr := by
            rw [List.getElem?_map, position, Option.map_some, equal]
          exact (List.getElem?_inj (List.getElem?_eq_some_iff.mp firstAddr).1 distinct).mp
            (firstAddr.trans secondAddr.symm)
  · rename_i elsewhere
    subst same
    refine unchanged a' ⟨data, before, inside, notInfinite⟩ ?_
    unfold dueAfterUpdate
    cases s.updatedAddr u with
    | none => rfl
    | some b => exact DueTimes.set_of_ne _ _ fun same => absurd same.symm elsewhere

theorem updates_pending {updates : List LifetimeUpdate} (pending : s.Pending due m)
    (least : ∀ u ∈ updates, m ≤ u.validLifetime) :
    (updates.foldl (fun s u => s.update u) s).Pending (s.dueAfterUpdates due updates) m := by
  induction updates generalizing s due with
  | nil => exact pending
  | cons u rest ih =>
      exact ih (update_pending pending (least u (List.mem_cons_self ..)))
        fun v later => least v (List.mem_cons_of_mem _ later)

/-- The minimum of the loop is a minimum, and 0 only without any update. -/
theorem minStoredLifetime_le (updates : List LifetimeUpdate) :
    (∀ u ∈ updates, minStoredLifetime updates ≤ u.validLifetime) ∧
      (minStoredLifetime updates = 0 → updates = []) := by
  have general : ∀ (l : List LifetimeUpdate) (start : BitVec 32),
      let minimum := l.foldl (fun minStored u =>
        if minStored = 0 then u.validLifetime
        else if u.validLifetime < minStored then u.validLifetime else minStored) start
      (start ≠ 0 → minimum ≤ start) ∧ (∀ u ∈ l, minimum ≤ u.validLifetime) ∧
        (minimum = 0 → start = 0 ∧ l = []) := by
    intro l
    induction l with
    | nil => exact fun start => ⟨fun _ => BitVec.le_refl _, fun u absent => absurd absent
        List.not_mem_nil, fun zero => ⟨zero, rfl⟩⟩
    | cons u rest ih =>
        intro start
        rw [List.foldl_cons]
        obtain ⟨below, others, zero⟩ := ih (if start = 0 then u.validLifetime
          else if u.validLifetime < start then u.validLifetime else start)
        have nonzero := u.nonzero
        have next : (if start = 0 then u.validLifetime
            else if u.validLifetime < start then u.validLifetime else start) ≠ 0 := by
          split_ifs <;> assumption
        have least := BitVec.le_def.mp (below next)
        refine ⟨fun set => ?_, fun v inside => ?_, fun none => absurd (zero none).1 next⟩
        · refine BitVec.le_def.mpr (Nat.le_trans least ?_)
          rw [if_neg set]
          split
          · rename_i less
            exact Nat.le_of_lt (BitVec.lt_def.mp less)
          · exact Nat.le_refl _
        · rcases List.mem_cons.mp inside with rfl | later
          · refine BitVec.le_def.mpr (Nat.le_trans least ?_)
            split_ifs with first less
            · exact Nat.le_refl _
            · exact Nat.le_refl _
            · exact Nat.le_of_not_lt (mt BitVec.lt_def.mpr less)
          · exact others v later
  obtain ⟨-, least, zero⟩ := general updates 0
  exact ⟨least, fun none => (zero none).2⟩

end AddrConf

/-- The state with the due times of its addresses. -/
structure AddrConfHistory where
  conf : AddrConf
  due : DueTimes

namespace AddrConfEvent

def dueAfter (s : AddrConf) (due : DueTimes) : AddrConfEvent → DueTimes
  | assignAddress addr ifIndex _ => due.set ifIndex addr.addr (s.now + addr.storedLifetime.toNat)
  | updateLifetimes updates => s.dueAfterUpdates due updates
  | timeout => due
  | advance _ => due

def record (h : AddrConfHistory) (e : AddrConfEvent) : Exec AddrConfHistory := do
  let conf ← e.step h.conf
  return ⟨conf, e.dueAfter h.conf h.due⟩

/-- The event happens in the order of the simulation and takes all time that has passed
into account. -/
def Accounted (h : AddrConfHistory) (e : AddrConfEvent) : Prop :=
  e.Possible h.conf ∧
    match e with
    | assignAddress addr ifIndex reallocates => ∀ conf,
        h.conf.pushAddress addr ifIndex reallocates = .ok conf →
        addr.storedLifetime < validLifetimeInfinity →
        conf.Accounts (e.dueAfter h.conf h.due) addr.storedLifetime
    | updateLifetimes updates =>
        0 < minStoredLifetime updates → minStoredLifetime updates < validLifetimeInfinity →
        (updates.foldl (fun s u => s.update u) h.conf).Accounts (e.dueAfter h.conf h.due)
          (minStoredLifetime updates)
    | timeout => h.conf.SkipsUpdated h.due
    | advance _ => True

variable {s s' : AddrConf} {due : DueTimes} {h h' : AddrConfHistory} {e : AddrConfEvent}

theorem assignAddress_punctual {addr : InterfaceAddress} {ifIndex : Nat} {reallocates : Bool}
    (punctual : s.Punctual due) (accounted : Accounted ⟨s, due⟩ (.assignAddress addr ifIndex reallocates))
    (done : s.assignAddress addr ifIndex reallocates = .ok s') :
    s'.Punctual (due.set ifIndex addr.addr (s.now + addr.storedLifetime.toNat)) := by
  obtain ⟨conf, pushed, done⟩ := bind_eq_ok.mp done
  have pending := pushAddress_pending punctual pushed
  split at done
  · rename_i finite
    exact rescheduleAddrConfTimer_punctual pending (accounted.2 conf pushed finite.2) done
  · rename_i unlimited
    cases done
    refine Pending.toPunctual ?_
    have nonzero : addr.storedLifetime ≠ 0 := by
      simp only [pushAddress, bind_eq_ok, assert_eq_ok] at pushed
      obtain ⟨_, -, _, -, _, -, _, nonzero, -⟩ := pushed
      exact nonzero
    have infinite : addr.storedLifetime = validLifetimeInfinity := by
      by_contra finite
      exact unlimited ⟨(BitVec.pos_iff_ne_zero _).mpr nonzero, lifetime_lt_infinity.mpr finite⟩
    rw [infinite] at pending ⊢
    exact pending

theorem updateLifetimes_punctual {updates : List LifetimeUpdate} (punctual : s.Punctual due)
    (accounted : Accounted ⟨s, due⟩ (.updateLifetimes updates)) (done : s.updateLifetimes updates = .ok s') :
    s'.Punctual (s.dueAfterUpdates due updates) := by
  obtain ⟨least, zero⟩ := minStoredLifetime_le updates
  unfold AddrConf.updateLifetimes at done
  dsimp only at done
  split at done
  · rename_i finite
    exact rescheduleAddrConfTimer_punctual (updates_pending (punctual.toPending _) least)
      (accounted.2 finite.1 finite.2) done
  · rename_i unlimited
    cases done
    by_cases empty : minStoredLifetime updates = 0
    · rw [zero empty]
      exact punctual
    · have infinite : minStoredLifetime updates = validLifetimeInfinity := by
        by_contra finite
        exact unlimited ⟨(BitVec.pos_iff_ne_zero _).mpr empty, lifetime_lt_infinity.mpr finite⟩
      exact (updates_pending (punctual.toPending _) (infinite ▸ least)).toPunctual

/-- One event keeps every address on time. -/
theorem record_punctual (punctual : h.conf.Punctual h.due) (accounted : Accounted h e)
    (done : record h e = .ok h') : h'.conf.Punctual h'.due := by
  obtain ⟨conf, stepped, done⟩ := bind_eq_ok.mp done
  cases done
  cases e with
  | assignAddress addr ifIndex reallocates =>
      exact assignAddress_punctual punctual accounted stepped
  | updateLifetimes updates => exact updateLifetimes_punctual punctual accounted stepped
  | timeout => exact lifetimeExpired_punctual punctual accounted.2 stepped
  | advance t =>
      cases stepped
      obtain ⟨⟨later, before⟩, -⟩ := accounted
      refine ⟨punctual.distinct, fun tmr set => ?_, punctual.finite⟩
      have running := punctual.running tmr set
      exact ⟨running.positive, Nat.le_trans running.sent later, before tmr set, running.lifetime⟩

/-- No address stays assigned past its due time in a run whose events take all time
that has passed into account. -/
theorem assigned_until_due {h h' : AddrConfHistory} {events : List AddrConfEvent}
    (distinct : h.conf.Distinct) (unset : h.conf.addrExpiryTmr = none)
    (infinite : ∀ ifIndex a, ¬ h.conf.Finite ifIndex a)
    (runs : Runs record Accounted h events h') :
    ∀ ifIndex a, h'.conf.Finite ifIndex a → h'.conf.now ≤ h'.due ifIndex a.addr := by
  have start : h.conf.Punctual h.due := by
    refine ⟨distinct, fun tmr set => ?_, fun i a finite => absurd finite (infinite i a)⟩
    rw [unset] at set
    cases set
  have punctual := runs.invariant (fun h => h.conf.Punctual h.due)
    (fun _ _ _ punctual accounted done => record_punctual punctual accounted done) start
  exact fun i a finite => punctual.now_le finite

/-- One interface with its link local address, at time 1. -/
def exampleStart : AddrConfHistory where
  conf :=
    { interfaces := [⟨[⟨⟨⟨0xFE800000, 0, 0, 1⟩, 64⟩, validLifetimeInfinity,
        validLifetimeInfinity, false⟩], []⟩]
      addrExpiryTmr := none
      now := 1 }
  due := fun _ _ => 0

def exampleAddress (low lifetime : BitVec 32) : InterfaceAddress :=
  ⟨⟨⟨0x20010db8, 0, 0, low⟩, 64⟩, lifetime, lifetime, false⟩

theorem exampleStart_infinite (ifIndex : Nat) (a : InterfaceAddress) : ¬ exampleStart.conf.Finite ifIndex a := by
  rintro ⟨data, located, inside, -⟩
  rw [List.mem_singleton.mp (List.mem_of_getElem? located)] at inside
  cases inside

theorem assigned_until_due_once :
    ∃ h, run record exampleStart
        [.assignAddress (exampleAddress 1 60) 0 false, .advance 61] = .ok h ∧
      ∀ ifIndex a, h.conf.Finite ifIndex a → h.conf.now ≤ h.due ifIndex a.addr := by
  have distinct : exampleStart.conf.Distinct := by
    intro i data located
    rw [List.mem_singleton.mp (List.mem_of_getElem? located)]
    exact List.nodup_singleton _
  have accounted : Accounted exampleStart (.assignAddress (exampleAddress 1 60) 0 false) := by
    refine ⟨trivial, fun conf pushed _ => ?_⟩
    cases pushed
    exact fun _ _ _ => Nat.one_pos
  refine ⟨_, rfl, assigned_until_due distinct rfl exampleStart_infinite
    (.cons (e := .assignAddress (exampleAddress 1 60) 0 false) accounted rfl
      (.cons (e := .advance 61) ?_ rfl (.nil _)))⟩
  refine ⟨⟨by decide, fun tmr set => ?_⟩, trivial⟩
  cases set
  decide

/-- The second assignment restarts the timer at 51 for 111 without elapsing the 50
seconds of the first address: after the timer it is still assigned, due at 101. -/
theorem second_address_delays_first :
    ∃ h, Runs record (fun h e => e.Possible h.conf) exampleStart
        [.assignAddress (exampleAddress 1 100) 0 false, .advance 51,
          .assignAddress (exampleAddress 2 60) 0 false, .advance 111, .timeout] h ∧
      ∃ a, h.conf.Finite 0 a ∧ a.toIPv6Address = (exampleAddress 1 100).toIPv6Address ∧
        h.conf.now = 111 ∧ h.due 0 a.addr = 101 := by
  refine ⟨_, .cons trivial rfl (.cons ⟨by decide, fun tmr set => ?_⟩ rfl (.cons trivial rfl
    (.cons ⟨by decide, fun tmr set => ?_⟩ rfl (.cons ⟨_, rfl, rfl⟩ rfl (.nil _))))),
    { exampleAddress 1 40 with preferredLifetime := 0 }, ⟨_, rfl, ?_, by decide⟩, rfl, rfl, rfl⟩
  · cases set
    decide
  · cases set
    decide
  · decide

end AddrConfEvent

end IPv6Suite
