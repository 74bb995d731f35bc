import IPv6Suite.IPvXAddressText
import IPv6Suite.Lib.Exec

namespace IPv6Suite

open Lib

def IPv6Address_.set (addr : List Char) : Exec IPv6Address_ := Exec.deref .fatalError (tryParse addr)

theorem IPv6Address_.set_str (a : IPv6Address_) : set a.str = .ok a := by
  rw [set, tryParse_str]
  rfl

theorem IPv6Address_.ofAddr_isNull (addr : Ipv6Addr) : (ofAddr addr).isNull ↔ addr = .unspecified := by
  obtain ⟨extreme, high, normal, low⟩ := addr
  unfold isNull ofAddr Ipv6Addr.unspecified
  simp only [BitVec.ofNat_eq_ofNat, BitVec.or_eq_zero_iff, Ipv6Addr.mk.injEq, and_assoc]

def AddressObject.addressSansPrefix (a : AddressObject) : List Char := a.mAddr.text

namespace IPAddressResolver

/-- `getInterfaceIPv6Address`, with the addresses `inetAddrs` of the interface -/
def getInterfaceIPv6Address (inetAddrs : List AddressObject) : Exec IPv6Address_ :=
  let scope := Ipv6Addr.Scope.none
  inetAddrs.foldlM (fun addr a =>
    if scope.value < a.scope.value then IPv6Address_.set a.addressSansPrefix else pure addr) ⟨0, 0, 0, 0⟩

variable {inetAddrs : List AddressObject}

def withScope (inetAddrs : List AddressObject) : List AddressObject := inetAddrs.filter fun a => a.scope ≠ .none

theorem value_none_lt (s : Ipv6Addr.Scope) : Ipv6Addr.Scope.none.value < s.value ↔ s ≠ .none := by
  cases s <;> decide

/-- The scope of the best address so far is never noted, so that every later one counts as better. -/
theorem getInterfaceIPv6Address_last (inetAddrs : List AddressObject) :
    getInterfaceIPv6Address inetAddrs = .ok (((withScope inetAddrs).getLast?.map fun a =>
      IPv6Address_.ofAddr a.mAddr).getD ⟨0, 0, 0, 0⟩) := by
  unfold getInterfaceIPv6Address withScope
  dsimp only
  generalize (⟨0, 0, 0, 0⟩ : IPv6Address_) = addr
  induction inetAddrs generalizing addr with
  | nil => rfl
  | cons a rest ih =>
      rw [List.foldlM_cons]
      by_cases some : a.scope ≠ .none
      · have taken : IPv6Address_.set a.addressSansPrefix = .ok (IPv6Address_.ofAddr a.mAddr) :=
          IPv6Address_.set_str (IPv6Address_.ofAddr a.mAddr)
        rw [if_pos ((value_none_lt a.scope).mpr some), taken, ok_bind, ih, List.filter_cons_of_pos (by simpa using some),
          List.getLast?_cons]
        cases (rest.filter fun a => a.scope ≠ .none).getLast? with
        | none => rfl
        | some last => rfl
      · rw [if_neg (fun above => some ((value_none_lt a.scope).mp above)), pure_eq_ok, ok_bind, ih,
          List.filter_cons_of_neg (by simpa using some)]

/-- No address of the interface has a greater scope. -/
def Best (inetAddrs : List AddressObject) (a : AddressObject) : Prop :=
  a ∈ inetAddrs ∧ ∀ b ∈ inetAddrs, b.scope.value ≤ a.scope.value

/-- An address of the greatest scope is returned, and none only if no address has one. -/
def ReturnsBest (inetAddrs : List AddressObject) : Prop :=
  ∃ addr, getInterfaceIPv6Address inetAddrs = .ok addr ∧
    (addr.isNull → ∀ a ∈ inetAddrs, a.scope = .none) ∧
      (¬ addr.isNull → ∃ a, Best inetAddrs a ∧ addr = IPv6Address_.ofAddr a.mAddr)

theorem mem_withScope {a : AddressObject} : a ∈ withScope inetAddrs ↔ a ∈ inetAddrs ∧ a.scope ≠ .none := by
  simp [withScope]

theorem ofAddr_inj {a b : Ipv6Addr} : IPv6Address_.ofAddr a = IPv6Address_.ofAddr b ↔ a = b := by
  constructor
  · intro same
    obtain ⟨extreme, high, normal, low⟩ := a
    obtain ⟨extreme', high', normal', low'⟩ := b
    simpa only [IPv6Address_.ofAddr, IPv6Address_.mk.injEq, Ipv6Addr.mk.injEq] using same
  · exact congrArg IPv6Address_.ofAddr

/-- The last address of a scope above none has to be one of the best. -/
theorem returnsBest_iff (inetAddrs : List AddressObject) :
    ReturnsBest inetAddrs ↔ ∀ last ∈ (withScope inetAddrs).getLast?, last.mAddr ≠ .unspecified ∧
      ∃ a, Best inetAddrs a ∧ a.mAddr = last.mAddr := by
  unfold ReturnsBest
  rw [getInterfaceIPv6Address_last]
  cases found : (withScope inetAddrs).getLast? with
  | none =>
      have none : withScope inetAddrs = [] := List.getLast?_eq_none_iff.mp found
      have all : ∀ a ∈ inetAddrs, a.scope = .none := by
        intro a member
        by_contra above
        have inside := mem_withScope.mpr ⟨member, above⟩
        rw [none] at inside
        cases inside
      simp only [Option.not_mem_none, false_implies, implies_true, iff_true]
      exact ⟨_, rfl, fun _ => all, fun some => absurd rfl some⟩
  | some last =>
      obtain ⟨member, above⟩ := mem_withScope.mp (List.mem_of_getLast? found)
      simp only [Option.map_some, Option.getD_some, Option.mem_some_iff, forall_eq']
      constructor
      · rintro ⟨addr, returned, null, best⟩
        cases returned
        have some : ¬ (IPv6Address_.ofAddr last.mAddr).isNull := fun empty => above (null empty last member)
        obtain ⟨a, greatest, same⟩ := best some
        exact ⟨fun unspecified => some ((IPv6Address_.ofAddr_isNull _).mpr unspecified), a, greatest,
          (ofAddr_inj.mp same).symm⟩
      · rintro ⟨specified, a, greatest, same⟩
        refine ⟨_, rfl, fun empty => absurd ((IPv6Address_.ofAddr_isNull _).mp empty) specified, fun _ => ?_⟩
        exact ⟨a, greatest, by rw [same]⟩

/-- With the scopes of the addresses themselves, it is the last one alone that counts. -/
theorem returnsBest_iff_kept (kept : ∀ a ∈ inetAddrs, a.ScopeKept) :
    ReturnsBest inetAddrs ↔ ∀ last ∈ (withScope inetAddrs).getLast?, ∀ b ∈ inetAddrs, b.scope.value ≤ last.scope.value := by
  rw [returnsBest_iff]
  apply forall₂_congr
  intro last found
  obtain ⟨member, above⟩ := mem_withScope.mp (List.mem_of_getLast? found)
  have scope := (kept last member).scope_eq
  constructor
  · rintro ⟨-, a, ⟨inside, greatest⟩, same⟩
    rw [scope, ← same, ← (kept a inside).scope_eq]
    exact greatest
  · intro greatest
    refine ⟨fun unspecified => above ?_, last, ⟨member, greatest⟩, rfl⟩
    rw [scope, unspecified]
    decide

def globalThenLink : List AddressObject := [.ofAddr ⟨0x20010DB8, 0, 0, 1⟩ 64, .ofAddr ⟨0xFE800000, 0, 0, 1⟩ 64]

theorem globalThenLink_returned :
    getInterfaceIPv6Address globalThenLink = .ok ⟨0xFE800000, 0, 0, 1⟩ ∧ ¬ ReturnsBest globalThenLink := by
  have kept : ∀ a ∈ globalThenLink, a.ScopeKept := by
    unfold AddressObject.ScopeKept
    decide
  refine ⟨by rw [getInterfaceIPv6Address_last]; decide, fun best => ?_⟩
  have greatest := (returnsBest_iff_kept kept).mp best (.ofAddr ⟨0xFE800000, 0, 0, 1⟩ 64) (by decide)
    (.ofAddr ⟨0x20010DB8, 0, 0, 1⟩ 64) (by decide)
  exact absurd greatest (by decide)

end IPAddressResolver

end IPv6Suite
