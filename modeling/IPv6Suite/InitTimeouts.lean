import IPv6Suite.MIPv6ReturnRoutability
import Mathlib.Data.List.Iterate

namespace IPv6Suite

open Lib

namespace BuEntry

/-- The entry after a HoTI was sent for it: the next one is due when the increased timeout has gone by. -/
def sentHoTI (bule : BuEntry) (cookie : BitVec 32) (now : ℚ) : Exec BuEntry := do
  let bule := { bule.increaseHotiTimeout with homeCookie := cookie }
  let tmr ← Exec.deref .nullDeref bule.hotiRetransTmr
  return { bule with hotiRetransTmr := some (tmr.reschedule (now + bule.homeInitTimeout)) }

def sentCoTI (bule : BuEntry) (cookie : BitVec 32) (now : ℚ) : Exec BuEntry := do
  let bule := { bule.increaseCotiTimeout with careOfCookie := cookie }
  let tmr ← Exec.deref .nullDeref bule.cotiRetransTmr
  return { bule with cotiRetransTmr := some (tmr.reschedule (now + bule.careOfInitTimeout)) }

end BuEntry

namespace MobileNode

variable {mn mn' : MobileNode} {dest coa : Ipv6Addr} {timestamp : ℚ} {cookie : BitVec 32} {sent : SentTest}

theorem findBU_modified {old new : BuEntry} (found : mn.findBU dest = some old) (addr : new.addr = old.addr) :
    (mn.modifyBU dest fun _ => new).findBU dest = some new := by
  have addr := addr.trans (BindingUpdateList.findBU_addr found)
  rw [(Written.modifyBU found addr).findBU, if_pos addr]

theorem sendHoTI_entry {tunnel : Bool} (sends : mn.sendHoTI dest timestamp cookie tunnel = .ok (sent, mn')) :
    ∃ bule bule', mn.findBU dest = some bule ∧ bule.sentHoTI cookie mn.now = .ok bule' ∧
      mn'.findBU dest = some bule' := by
  obtain ⟨_, -, rest⟩ := bind_eq_ok.mp sends
  obtain ⟨bule, entry, rest⟩ := bind_eq_ok.mp rest
  rw [deref_eq_ok] at entry
  obtain ⟨_, -, rest⟩ := bind_eq_ok.mp rest
  obtain ⟨_, -, rest⟩ := bind_eq_ok.mp rest
  obtain ⟨tmr, timer, rest⟩ := bind_eq_ok.mp rest
  cases rest
  exact ⟨bule, _, entry, bind_eq_ok.mpr ⟨tmr, timer, rfl⟩, findBU_modified entry rfl⟩

theorem sendCoTI_entry {lifetime : Nat} {r : Option Registration}
    (sends : mn.sendCoTI dest coa timestamp cookie lifetime = .ok (sent, r, mn')) :
    ∃ bule bule', mn.findBU dest = some bule ∧ bule.sentCoTI cookie mn.now = .ok bule' ∧
      mn'.findBU dest = some bule' := by
  obtain ⟨_, -, rest⟩ := bind_eq_ok.mp sends
  obtain ⟨bule, entry, rest⟩ := bind_eq_ok.mp rest
  rw [deref_eq_ok] at entry
  obtain ⟨tmr, timer, rest⟩ := bind_eq_ok.mp rest
  cases rest
  exact ⟨bule, _, entry, bind_eq_ok.mpr ⟨tmr, timer, rfl⟩, findBU_modified entry rfl⟩

end MobileNode

/-! ### The timeouts of one entry -/

/-- What happens to an entry of the binding update list. Its timeouts are private, so that nothing else
writes them. -/
inductive InitCall where
  | sendHoTI (cookie : BitVec 32) (now : ℚ)
  | sendCoTI (cookie : BitVec 32) (now : ℚ)
  | test (msg : TestReply) (earlyBU : Bool) (now : ℚ)
  | other (bule : BuEntry)

/-- An entry with the timeouts of the HoTIs and CoTIs that were sent since the last HoT and CoT -/
structure InitHistory where
  bule : BuEntry
  hotis : List ℚ
  cotis : List ℚ

namespace InitHistory

def create (dest hoa coa : Ipv6Addr) (lifetime : Nat) : InitHistory :=
  ⟨BuEntry.createTested dest hoa coa lifetime, [], []⟩

def step (h : InitHistory) : InitCall → Exec InitHistory
  | .sendHoTI cookie now => do
      let bule ← h.bule.sentHoTI cookie now
      return { h with bule, hotis := h.hotis ++ [bule.homeInitTimeout] }
  | .sendCoTI cookie now => do
      let bule ← h.bule.sentCoTI cookie now
      return { h with bule, cotis := h.cotis ++ [bule.careOfInitTimeout] }
  | .test msg earlyBU now => do
      let bule ← h.bule.tested msg earlyBU now
      match msg.kind with
      | .hot => return { h with bule, hotis := [] }
      | .cot => return { h with bule, cotis := [] }
  | .other bule => .ok { h with bule := { bule with
      homeInitTimeout := h.bule.homeInitTimeout
      careOfInitTimeout := h.bule.careOfInitTimeout } }

/-- The timeouts begin with the initial one, and double up to the largest one. -/
structure BacksOff (timeouts : List ℚ) : Prop where
  initial : ∀ t ∈ timeouts.head?, t = initialBindackTimeout
  doubles : timeouts.IsChain fun (t t' : ℚ) => t' = min (t * 2) maxBindackTimeout
  bounded : ∀ t ∈ timeouts, t ≤ maxBindackTimeout

/-- The timeouts are those of an entry that was reset before the first of them. -/
structure Increased (timeout : ℚ) (timeouts : List ℚ) : Prop where
  values : timeouts = List.iterate BuEntry.increaseTimeout (BuEntry.increaseTimeout 0) timeouts.length
  last : timeout = BuEntry.increaseTimeout^[timeouts.length] 0

variable {timeout : ℚ} {timeouts : List ℚ} {h h' : InitHistory} {call : InitCall}

theorem Increased.nil : Increased 0 [] := ⟨rfl, rfl⟩

theorem Increased.increase (increased : Increased timeout timeouts) :
    Increased (BuEntry.increaseTimeout timeout) (timeouts ++ [BuEntry.increaseTimeout timeout]) where
  values := by
    rw [List.length_append, List.length_singleton, List.iterate_add, ← increased.values,
      ← Function.iterate_succ_apply, Function.iterate_succ_apply', ← increased.last]
    rfl
  last := by
    rw [List.length_append, List.length_singleton, Function.iterate_succ_apply', ← increased.last]

/-- Four is squared instead of doubled. -/
theorem backsOff_iterate (n : Nat) :
    BacksOff (List.iterate BuEntry.increaseTimeout (BuEntry.increaseTimeout 0) n) ↔ n ≤ 3 := by
  constructor
  · intro backsOff
    by_contra more
    have doubled := List.isChain_iff_getElem.mp backsOff.doubles 2 (by rw [List.length_iterate]; omega)
    rw [List.getElem_iterate, List.getElem_iterate] at doubled
    exact absurd doubled (by decide +kernel)
  · intro few
    have cases : n = 0 ∨ n = 1 ∨ n = 2 ∨ n = 3 := by omega
    rcases cases with rfl | rfl | rfl | rfl
    · exact ⟨by decide +kernel, by decide +kernel, by decide +kernel⟩
    · exact ⟨by decide +kernel, by decide +kernel, by decide +kernel⟩
    · exact ⟨by decide +kernel, by decide +kernel, by decide +kernel⟩
    · exact ⟨by decide +kernel, by decide +kernel, by decide +kernel⟩

theorem Increased.few_iff (increased : Increased timeout timeouts) : BacksOff timeouts ↔ timeouts.length ≤ 3 := by
  conv_lhs => rw [increased.values]
  exact backsOff_iterate timeouts.length

/-- Both timeouts of the entry are those of the last messages. -/
structure Follows (h : InitHistory) : Prop where
  hotis : Increased h.bule.homeInitTimeout h.hotis
  cotis : Increased h.bule.careOfInitTimeout h.cotis

theorem Follows.step (follows : h.Follows) (steps : h.step call = .ok h') : h'.Follows := by
  cases call with
  | sendHoTI cookie now =>
      obtain ⟨bule, sends, rest⟩ := bind_eq_ok.mp steps
      obtain ⟨tmr, -, sends⟩ := bind_eq_ok.mp sends
      cases sends
      cases rest
      exact ⟨follows.hotis.increase, follows.cotis⟩
  | sendCoTI cookie now =>
      obtain ⟨bule, sends, rest⟩ := bind_eq_ok.mp steps
      obtain ⟨tmr, -, sends⟩ := bind_eq_ok.mp sends
      cases sends
      cases rest
      exact ⟨follows.hotis, follows.cotis.increase⟩
  | test msg earlyBU now =>
      obtain ⟨bule, tests, rest⟩ := bind_eq_ok.mp steps
      rcases MobileNode.tested_cases tests with ⟨kind, tmr, scheduled, -, -, rfl⟩ | ⟨kind, tmr, -, rfl⟩
      · rw [kind] at rest
        cases rest
        exact ⟨.nil, follows.cotis⟩
      · rw [kind] at rest
        cases rest
        exact ⟨follows.hotis, .nil⟩
  | other bule =>
      cases steps
      exact ⟨follows.hotis, follows.cotis⟩

/-- In every state of an entry the timeouts since the last reply back off exactly if there are at most three. -/
theorem backsOff_iff {dest hoa coa : Ipv6Addr} {lifetime : Nat} {calls : List InitCall}
    (runs : run step (create dest hoa coa lifetime) calls = .ok h) :
    (BacksOff h.hotis ↔ h.hotis.length ≤ 3) ∧ (BacksOff h.cotis ↔ h.cotis.length ≤ 3) := by
  have follows : h.Follows := (Runs.of_run runs).invariant Follows
    (fun _ _ _ follows _ => follows.step) ⟨.nil, .nil⟩
  exact ⟨follows.hotis.few_iff, follows.cotis.few_iff⟩

def exampleEntry : InitHistory := create ⟨9, 0, 0, 9⟩ ⟨1, 0, 0, 1⟩ ⟨2, 0, 0, 1⟩ 60

def exampleHoTIs : List InitCall := [10, 11, 13, 17].map (.sendHoTI 7)

theorem exampleHoTIs_run : ∃ h, run step exampleEntry (exampleHoTIs.take 3) = .ok h := ⟨_, rfl⟩

theorem backsOff_iff_example : ∃ h, run step exampleEntry (exampleHoTIs.take 3) = .ok h ∧
    (BacksOff h.hotis ↔ h.hotis.length ≤ 3) ∧ (BacksOff h.cotis ↔ h.cotis.length ≤ 3) := by
  obtain ⟨h, runs⟩ := exampleHoTIs_run
  exact ⟨h, runs, backsOff_iff runs⟩

theorem backsOff_fails : (run step exampleEntry exampleHoTIs).map (·.hotis) = .ok [1, 2, 4, 16] ∧
    ¬ BacksOff [1, 2, 4, 16] := by
  refine ⟨by decide +kernel, fun backsOff => ?_⟩
  exact absurd (List.isChain_iff_getElem.mp backsOff.doubles 2 (by decide)) (by decide +kernel)

end InitHistory

end IPv6Suite
