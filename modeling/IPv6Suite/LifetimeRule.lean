import IPv6Suite.PrefixAddrConf

namespace IPv6Suite

namespace InterfaceAddress

/-- The lifetimes an address should have once `seconds` of them are gone -/
structure Elapsed (seconds : BitVec 32) (a a' : InterfaceAddress) : Prop where
  skipped : a.storedLifetime = validLifetimeInfinity ∨ a.updated = true →
    a'.storedLifetime = a.storedLifetime ∧ a'.preferredLifetime = a.preferredLifetime
  stored : a.storedLifetime ≠ validLifetimeInfinity → a.updated = false →
    a'.storedLifetime.toNat = a.storedLifetime.toNat - seconds.toNat
  preferred : a.storedLifetime ≠ validLifetimeInfinity → a.updated = false →
    a'.preferredLifetime.toNat = a.preferredLifetime.toNat - seconds.toNat
  ordered : a.preferredLifetime ≤ a.storedLifetime → a'.preferredLifetime ≤ a'.storedLifetime

variable {seconds : BitVec 32} {a : InterfaceAddress}

theorem elapse_skipped (seconds : BitVec 32) (skipped : a.storedLifetime = validLifetimeInfinity ∨ a.updated = true) :
    (a.elapse seconds).storedLifetime = a.storedLifetime ∧
      (a.elapse seconds).preferredLifetime = a.preferredLifetime := by
  unfold elapse
  by_cases infinite : a.storedLifetime = validLifetimeInfinity
  · rw [if_pos infinite]
    exact ⟨rfl, rfl⟩
  · rw [if_neg infinite, if_pos (skipped.resolve_left infinite)]
    exact ⟨rfl, rfl⟩

/-- The branches of the preferred lifetime are the wrong way round: it is cleared while it lasts and wraps around
once it has run out. -/
theorem elapse_preferred (finite : a.storedLifetime ≠ validLifetimeInfinity) (settled : a.updated = false) :
    (a.elapse seconds).preferredLifetime.toNat =
      if seconds ≤ a.preferredLifetime then 0 else 2 ^ 32 - (seconds.toNat - a.preferredLifetime.toNat) := by
  unfold elapse
  rw [if_neg finite, if_neg (by simp [settled])]
  dsimp only
  split
  · rfl
  · rename_i less
    rw [BitVec.le_def, Nat.not_le] at less
    have bound := seconds.isLt
    rw [BitVec.toNat_sub]
    omega

theorem elapsed_iff (seconds : BitVec 32) (a : InterfaceAddress) : Elapsed seconds a (a.elapse seconds) ↔
    (a.storedLifetime ≠ validLifetimeInfinity → a.updated = false → a.preferredLifetime = seconds) := by
  constructor
  · intro elapsed finite settled
    have should := elapsed.preferred finite settled
    rw [elapse_preferred finite settled] at should
    have bound := seconds.isLt
    apply BitVec.eq_of_toNat_eq
    split at should
    · rename_i enough
      rw [BitVec.le_def] at enough
      omega
    · rename_i less
      rw [BitVec.le_def] at less
      omega
  · intro last
    by_cases skipped : a.storedLifetime = validLifetimeInfinity ∨ a.updated = true
    · obtain ⟨stored, preferred⟩ := elapse_skipped seconds skipped
      refine ⟨fun _ => ⟨stored, preferred⟩, fun finite settled => ?_, fun finite settled => ?_, fun ordered => ?_⟩
      · exact absurd skipped (by simp [finite, settled])
      · exact absurd skipped (by simp [finite, settled])
      · rw [stored, preferred]
        exact ordered
    · have finite : a.storedLifetime ≠ validLifetimeInfinity := fun infinite => skipped (Or.inl infinite)
      have settled : a.updated = false := Bool.eq_false_iff.mpr fun updated => skipped (Or.inr updated)
      have stored : (a.elapse seconds).storedLifetime.toNat = a.storedLifetime.toNat - seconds.toNat :=
        elapse_stored finite settled
      have preferred : (a.elapse seconds).preferredLifetime.toNat = 0 := by
        rw [elapse_preferred finite settled, if_pos (by rw [last finite settled]; exact BitVec.le_refl _)]
      refine ⟨fun either => absurd either skipped, fun _ _ => stored, fun _ _ => ?_, fun _ => ?_⟩
      · rw [preferred, last finite settled, Nat.sub_self]
      · rw [BitVec.le_def, preferred]
        exact Nat.zero_le _

end InterfaceAddress

namespace IPv6InterfaceData

/-- Every address from index 1 on has the lifetimes it should have. -/
def LifetimesElapsed (seconds : BitVec 32) (data data' : IPv6InterfaceData) : Prop :=
  ∀ (i : Nat) (a : InterfaceAddress), 1 ≤ i → data.inetAddrs[i]? = some a →
    ∃ a', data'.inetAddrs[i]? = some a' ∧ a.Elapsed seconds a'

theorem getElem?_elapseLifetimes (data : IPv6InterfaceData) (seconds : BitVec 32) {i : Nat} (configured : 1 ≤ i) :
    (data.elapseLifetimes seconds).inetAddrs[i]? = data.inetAddrs[i]?.map (·.elapse seconds) := by
  unfold elapseLifetimes
  obtain ⟨i, rfl⟩ := Nat.exists_eq_add_of_le' configured
  cases data.inetAddrs with
  | nil => rfl
  | cons first rest => simp

theorem lifetimes_elapse (data : IPv6InterfaceData) (seconds : BitVec 32) :
    LifetimesElapsed seconds data (data.elapseLifetimes seconds) ↔
      ∀ (i : Nat) (a : InterfaceAddress), 1 ≤ i → data.inetAddrs[i]? = some a →
        a.storedLifetime ≠ validLifetimeInfinity → a.updated = false → a.preferredLifetime = seconds := by
  unfold LifetimesElapsed
  refine forall_congr' fun i => forall_congr' fun a => forall_congr' fun configured => forall_congr' fun located => ?_
  rw [getElem?_elapseLifetimes data seconds configured, located, ← InterfaceAddress.elapsed_iff]
  simp

/-- An address with 100 s left of both lifetimes is no longer preferred after 30 s. -/
theorem lifetimes_swapped : ¬ ∀ (data : IPv6InterfaceData) (seconds : BitVec 32),
    LifetimesElapsed seconds data (data.elapseLifetimes seconds) := by
  intro claimed
  let link : InterfaceAddress := ⟨⟨.linkLocalPrefix, 64⟩, validLifetimeInfinity, validLifetimeInfinity, false⟩
  obtain ⟨a', found, elapsed⟩ := claimed ⟨[link, ⟨⟨⟨0x20010DB8, 0, 0, 1⟩, 64⟩, 100, 100, false⟩], []⟩ 30 1 _
    (Nat.le_refl _) rfl
  cases found
  have left := elapsed.preferred (by decide) rfl
  revert left
  decide

end IPv6InterfaceData

open Lib

namespace AddrConf

def addressAt (s : AddrConf) (ifIndex j : Nat) : Option InterfaceAddress :=
  s.interfaces[ifIndex]?.bind (·.inetAddrs[j]?)

/-- Whether a call with `minUpdated` brings the timer forward, and the seconds it lets elapse -/
def broughtForward (s : AddrConf) (minUpdated : BitVec 32) : Option (BitVec 32) :=
  match s.addrExpiryTmr with
  | none => none
  | some tmr =>
      match tmr.remainingTime s.now, tmr.elapsedTime s.now with
      | .ok remaining, .ok elapsed =>
          if minUpdated.toNat < remaining then some (BitVec.ofNat 32 elapsed) else none
      | _, _ => none

/-- The lifetimes such a call leaves. The address at index 0 does not expire. -/
def afterTimer (s : AddrConf) (minUpdated : BitVec 32) (j : Nat) (a : InterfaceAddress) : InterfaceAddress :=
  match s.broughtForward minUpdated with
  | none => a
  | some seconds => if j = 0 then a else a.elapse seconds

variable {s s' : AddrConf} {ifIndex j : Nat}

/-- Every address of the interface keeps its place. -/
def Extends (ifIndex : Nat) (s s' : AddrConf) : Prop :=
  ∀ j, (s.addressAt ifIndex j).isSome → (s'.addressAt ifIndex j).isSome

theorem Extends.trans {t : AddrConf} (first : Extends ifIndex s s') (second : Extends ifIndex s' t) :
    Extends ifIndex s t := fun j there => second j (first j there)

end AddrConf

namespace AutoConf

variable {nd : AutoConf} {s : AddrConf} {st st' : AutoConfState}

/-- Nothing that the address timer works on changes. -/
structure Kept (s s' : AddrConf) : Prop where
  addresses : ∀ i j, s'.addressAt i j = s.addressAt i j
  timer : s'.addrExpiryTmr = s.addrExpiryTmr
  now : s'.now = s.now

theorem Kept.refl (s : AddrConf) : Kept s s := ⟨fun _ _ => rfl, rfl, rfl⟩

theorem Kept.trans {s s' t : AddrConf} (first : Kept s s') (second : Kept s' t) : Kept s t :=
  ⟨fun i j => (second.addresses i j).trans (first.addresses i j), second.timer.trans first.timer,
    second.now.trans first.now⟩

end AutoConf

namespace AutoConf

variable {nd : AutoConf} {s s' : AddrConf} {st : AutoConfState} {opts : List OptPrefix} {opt : OptPrefix} {j : Nat}
  {a : InterfaceAddress} {withdrawn : Bool}

/-- When its turn comes, the assigned address `a` at `j` is the first that the prefix of `opt` matches. -/
def Matches (nd : AutoConf) (withdrawn : Bool) (opts : List OptPrefix) (s : AddrConf) (opt : OptPrefix) (j : Nat)
    (a : InterfaceAddress) : Prop :=
  opt.considered = true ∧ ∃ (earlier later : List OptPrefix) (st : AutoConfState) (data : IPv6InterfaceData),
    opts = earlier ++ opt :: later ∧ (if withdrawn then st.conf = s else nd.processOptions earlier ⟨s, 0⟩ = .ok st) ∧
    st.conf.interfaces[nd.ifIndex]? = some data ∧ data.inetAddrs[j]? = some a ∧
    IPv6InterfaceData.findNetwork opt.prefixAddr data.inetAddrs = .ok (some a) ∧
    a.addr ≠ .unspecified ∧ data.tentativeAddrAssigned a.addr = false

/-- The lifetimes an address has at the end if no option updates it. Without duplicate address detection the new
addresses are assigned in the loop, and their calls of the timer come first. -/
def left (nd : AutoConf) (withdrawn : Bool) (opts : List OptPrefix) (s : AddrConf) (j : Nat) (a : InterfaceAddress) :
    InterfaceAddress :=
  if withdrawn then a
  else
    match nd.processOptions opts ⟨s, 0⟩ with
    | .error _ => a
    | .ok st =>
        let a := if 1 ≤ nd.dupAddrDetectTrans then a else (st.conf.addressAt nd.ifIndex j).getD a
        if 0 < st.minStoredLifetime ∧ st.minStoredLifetime < validLifetimeInfinity then
          st.conf.afterTimer st.minStoredLifetime j a
        else a

end AutoConf

end IPv6Suite
