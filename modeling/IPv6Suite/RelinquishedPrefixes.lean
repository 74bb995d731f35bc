import IPv6Suite.DadConflict
import IPv6Suite.Lib.Ensures
import IPv6Suite.Lib.ErasingLoop
import IPv6Suite.MIPv6NDStateHost
import IPv6Suite.PrefixAddrConf

namespace IPv6Suite

open Lib

/-- What the loop over the prefixes of the old router works on. `callbacks` are the addresses with callbacks that
wait. -/
structure OldLink where
  rt : RoutingTable6
  nd : DupAddrDet
  callbacks : List Ipv6Addr

namespace OldLink

def removeCallbacks (l : OldLink) (addr : Ipv6Addr) : OldLink :=
  { l with callbacks := l.callbacks.filter (· ≠ addr) }

/-- The address that is assigned from a prefix is removed, or else one that is still tentative. The home address stays,
and any other address behind it. -/
def removeAddress (l : OldLink) (oldIfIndex : Nat) (homeAddr pref : Ipv6Addr) : Exec OldLink := do
  let oie ← l.nd.interfaceByPortNo oldIfIndex
  let addr ← oie.ipv6.matchPrefix pref false
  if addr.addr ≠ .unspecified ∧ addr.addr ≠ homeAddr then do
    let ipv6 ← oie.ipv6.removeAddress addr.toIPv6Address
    return { l with nd := l.nd.withInterface oldIfIndex { oie with ipv6 } }.removeCallbacks addr.addr
  else do
    let addr ← oie.ipv6.matchPrefix pref true
    if addr.addr ≠ .unspecified ∧ addr.addr ≠ homeAddr then do
      let (removed, nd) ← l.nd.removeTentativeAddress oldIfIndex oie addr.addr
      Exec.assert (removed = true)
      return { l with nd }.removeCallbacks addr.addr
    else return l

variable (heap : StdHeap SimTime) (now : SimTime) (oldIfIndex : Nat) (homeAddr : Ipv6Addr)

theorem removeAddress_rt {l : OldLink} {oldIfIndex : Nat} {homeAddr pref : Ipv6Addr} :
    OnReturn (fun l' => l'.rt = l.rt) (l.removeAddress oldIfIndex homeAddr pref) := by
  refine Ensures.trivial.bind fun oie _ => Ensures.trivial.bind fun addr _ => Ensures.ite (fun _ => ?_) fun _ => ?_
  · exact Ensures.trivial.bind fun ipv6 _ => rfl
  · refine Ensures.trivial.bind fun addr _ => Ensures.ite (fun _ => ?_) fun _ => rfl
    exact Ensures.trivial.bind fun r _ => Ensures.trivial.bind fun _ _ => rfl

def removePrefix (l : OldLink) (pref : IPv6Address) : Exec OldLink := do
  let l ← l.removeAddress oldIfIndex homeAddr pref.addr
  let ppe ← Exec.deref .assertFailed (l.rt.cds.getPrefixEntry pref)
  let rt ← l.rt.removePrefixEntry heap now ppe.ptr
  return { l with rt }

/-- The loop of `relinquishRouter` -/
def removePrefixes (l : OldLink) (prefixes : List IPv6Address) : Exec (ListWalk OldLink IPv6Address) :=
  ListWalk.walk (removePrefix heap now oldIfIndex homeAddr) prefixes.length (.start l prefixes)

/-- Each prefix is visited once, and is gone from both lists, with the addresses from it but the home address. The
iterator stays within the list. -/
def Relinquishes (l : OldLink) (prefixes : List IPv6Address) : Prop :=
  ∃ w, removePrefixes heap now oldIfIndex homeAddr l prefixes = .ok w ∧
    w.visited.Perm prefixes ∧ w.it.list = [] ∧ w.pastEnd = false ∧
    ∀ pref ∈ prefixes, w.state.rt.cds.getPrefixEntry pref = none ∧
      ∀ oie ∈ w.state.nd.interfaces[oldIfIndex]?, ∀ a ∈ oie.ipv6.inetAddrs ++ oie.ipv6.tentativeAddrs,
        a.isNetwork pref.addr = true → a.addr = homeAddr

variable {heap now oldIfIndex homeAddr} {l : OldLink} {prefixes : List IPv6Address}
  {w w' : ListWalk OldLink IPv6Address}

/-- With an odd number of prefixes the iterator leaves the list, and of an even one half are left. -/
theorem removePrefixes_parity (walks : removePrefixes heap now oldIfIndex homeAddr l prefixes = .ok w) :
    (prefixes.length % 2 = 1 → w.pastEnd = true) ∧
      (prefixes.length % 2 = 0 → w.it.list.length = prefixes.length / 2) := by
  obtain ⟨odd, even⟩ := ListWalk.walk_parity walks (Nat.le_refl _)
  exact ⟨odd, fun half => (even half).trans (Nat.zero_add _)⟩

theorem Relinquishes.eq_nil (relinquishes : Relinquishes heap now oldIfIndex homeAddr l prefixes) :
    prefixes = [] := by
  obtain ⟨w, walks, -, erased, inside, -⟩ := relinquishes
  obtain ⟨odd, even⟩ := removePrefixes_parity walks
  rw [erased, List.length_nil] at even
  have short : prefixes.length % 2 ≠ 1 := by
    intro past
    rw [odd past] at inside
    cases inside
  exact List.eq_nil_of_length_eq_zero (by omega)

end OldLink

namespace MobileIPv6.MIPv6NDStateHost

variable {heap : StdHeap SimTime} {now : SimTime} {env : Surroundings} {s : MIPv6NDStateHost} {old : Ptr}

theorem walk_everySecond {σ τ α : Type} {visit : σ → α → Exec σ} {visit' : τ → α → Exec τ} (f : σ → τ)
    (simulates : ∀ state a state', visit state a = .ok state' → visit' (f state) a = .ok (f state'))
    {n : Nat} {w w' : ListWalk σ α} (walks : ListWalk.walk visit n w = .ok w') :
    (everySecond n w.it.before w.it.rest).1.foldlM visit' (f w.state) = .ok (f w'.state) ∧
      (everySecond n w.it.before w.it.rest).2 = w'.it.list := by
  induction n generalizing w with
  | zero =>
      cases walks
      exact ⟨rfl, rfl⟩
  | succ n ih =>
      rcases ListWalk.walk_cases walks with ⟨finished, rfl⟩ | ⟨a, rest, state, element, visits, walks⟩
      · rw [ListIter.list, finished]
        exact ⟨rfl, (List.append_nil _).symm⟩
      · obtain ⟨folds, left⟩ := ih walks
        have first := simulates _ _ _ visits
        rw [element]
        cases rest with
        | nil =>
            rw [(ListWalk.round_last element).1] at folds left
            rw [everySecond, List.foldlM_cons, first]
            exact ⟨folds, left⟩
        | cons b rest =>
            rw [ListWalk.round_cons element] at folds left
            rw [everySecond, List.foldlM_cons, first]
            exact ⟨folds, left⟩

theorem removePrefixes_everySecond {oldIfIndex : Nat} {homeAddr : Ipv6Addr} {l : OldLink} {prefixes : List IPv6Address}
    {w : ListWalk OldLink IPv6Address} (released : ∀ pref, env.releases pref = .ok ())
    (walks : OldLink.removePrefixes heap now oldIfIndex homeAddr l prefixes = .ok w) :
    (everySecond prefixes.length [] prefixes).1.foldlM (removeOnLinkPrefix heap now env) l.rt = .ok w.state.rt ∧
      (everySecond prefixes.length [] prefixes).2 = w.it.list := by
  refine walk_everySecond OldLink.rt (fun l pref l' removes => ?_) walks
  obtain ⟨middle, releases, removes⟩ := bind_eq_ok.mp removes
  obtain ⟨ppe, found, removes⟩ := bind_eq_ok.mp removes
  obtain ⟨rt, erases, removes⟩ := bind_eq_ok.mp removes
  cases removes
  have same : middle.rt = l.rt := OldLink.removeAddress_rt.of_ok releases
  rw [same] at found erases
  unfold removeOnLinkPrefix
  rw [released, ok_bind, found]
  exact erases

theorem redirect_entries (oldAddr : Ipv6Addr) (newRtr : Option Ptr) :
    OnReturn (fun s' => s'.entries = s.entries) (s.redirect oldAddr newRtr) := by
  cases newRtr with
  | none => exact rfl
  | some new => exact Ensures.trivial.bind fun _ _ => Ensures.trivial.bind fun _ _ => rfl

theorem relinquishOld_prefixes (newRtr : Option Ptr) : OnReturn (fun s' => (s'.entries old).prefixes =
        (everySecond (s.entries old).prefixes.length [] (s.entries old).prefixes).2)
      (relinquishOld heap now env s old newRtr) := by
  refine Ensures.trivial.bind fun r _ => Ensures.trivial.bind fun rt _ => ?_
  refine (redirect_entries _ _).bind fun s' same => ?_
  have left := congrArg (fun entries => (entries old).prefixes) same
  dsimp only [modifyEntry] at left
  rw [Function.update_self] at left
  by_cases stays : s'.primaryHA = none
  · rw [if_pos stays]
    exact left
  · rw [if_neg stays]
    exact left

end MobileIPv6.MIPv6NDStateHost

open OldLink

/-- The loop does what it is meant to only where there is nothing to do. -/
theorem relinquishes_iff (heap : StdHeap SimTime) (now : SimTime) (oldIfIndex : Nat) (homeAddr : Ipv6Addr)
    (l : OldLink) (prefixes : List IPv6Address) :
    Relinquishes heap now oldIfIndex homeAddr l prefixes ↔ prefixes = [] := by
  constructor
  · exact Relinquishes.eq_nil
  · rintro rfl
    exact ⟨.start l [], rfl, .nil, rfl, rfl, nofun⟩

/-- An interface with addresses from two prefixes that the router has advertised -/
def examplePrefix (low : BitVec 32) : IPv6Address := ⟨⟨0x20010000, low, 0, 0⟩, 64⟩

def exampleOldLink : OldLink where
  rt := [1, 2].foldl (fun rt low => { rt with
      cds := (rt.cds.insertPrefixEntry ⟨examplePrefix low, validLifetimeInfinity, false, true, 0, true, false⟩ 0).2 })
    (RoutingTable6.create true 1)
  nd := { DupAddrDet.exampleHost [] with interfaces := (DupAddrDet.exampleHost []).interfaces.map fun ie =>
    { ie with ipv6 := ⟨[1, 2].map fun low =>
        { InterfaceAddress.host ⟨0x20010000, low, 0, 1⟩ with prefixLength := 64 }, []⟩ } }
  callbacks := []

/-- With one prefix the iterator leaves the list. With two the second one and the address from it stay. -/
theorem relinquishes_fails :
    ¬ Relinquishes .sorted 0 0 .unspecified exampleOldLink [examplePrefix 1] ∧
      (removePrefixes .sorted 0 0 .unspecified exampleOldLink [examplePrefix 1]).map (·.pastEnd) = .ok true ∧
    ¬ Relinquishes .sorted 0 0 .unspecified exampleOldLink [examplePrefix 1, examplePrefix 2] ∧
      (removePrefixes .sorted 0 0 .unspecified exampleOldLink [examplePrefix 1, examplePrefix 2]).map (fun w =>
        (w.it.list, (w.state.rt.cds.getPrefixEntry (examplePrefix 2)).isSome,
          w.state.nd.interfaces.map fun ie => ie.ipv6.inetAddrs.map (·.addr))) =
        .ok ([examplePrefix 2], true, [[⟨0x20010000, 2, 0, 1⟩]]) :=
  ⟨fun claim => (nomatch claim.eq_nil), by decide +kernel, fun claim => (nomatch claim.eq_nil), by decide +kernel⟩

end IPv6Suite
