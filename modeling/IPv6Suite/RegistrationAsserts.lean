import IPv6Suite.MIPv6ReturnRoutability

namespace IPv6Suite

open Lib

namespace BuEntry

def otherTmr (bule : BuEntry) : TestKind → Option TIRetransTmr
  | .hot => bule.cotiRetransTmr
  | .cot => bule.hotiRetransTmr

def homeNonce (bule : BuEntry) (msg : TestReply) : BitVec 16 :=
  match msg.kind with
  | .hot => msg.ni
  | .cot => bule.homeNI

end BuEntry

namespace MobileNode

def nextCall : Option Registration × MobileNode → List (MobileNode × Registration)
  | (some r, mn) => [(mn, r)]
  | (none, _) => []

/-- The calls of `sendBU` for correspondent nodes while the entries are updated in turn -/
def entryCalls (coa hoa : Ipv6Addr) (lifetime : Nat) (mn : MobileNode) :
    List Ipv6Addr → List (MobileNode × Registration)
  | [] => []
  | addr :: rest =>
      match mn.sendBUs coa hoa lifetime addr with
      | .error _ => []
      | .ok call =>
          nextCall call ++ match finish call with
            | .error _ => []
            | .ok mn => mn.entryCalls coa hoa lifetime rest

/-- The calls of `sendBU` for correspondent nodes that an event makes, each with the node then -/
def registrations (mn : MobileNode) (e : RoutabilityEvent) : List (MobileNode × Registration) :=
  match e with
  | .handover coa awayFromHome lifetime =>
      match { mn with awayFromHome }.sendBUToAll coa mn.homeAddr lifetime with
      | .error _ => []
      | .ok (mn, addrs) => mn.entryCalls coa mn.homeAddr lifetime addrs
  | e =>
      match mn.handle e with
      | .error _ => []
      | .ok (_, call) => nextCall call

/-- At the care-of address `coa` the entry is not one that has a home nonce left while no test is in
progress. -/
def Spent (mn : MobileNode) (coa : Ipv6Addr) (bule : BuEntry) : Prop :=
  bule.homeAddr = coa → bule.homeNI = 0 ∨ mn.refusesInits bule = true

/-- No Binding Refresh Request comes from a known node, a test is not answered at home while the other
one is still scheduled, and no entry has a home nonce left at a return home. -/
def Answerable (mn : MobileNode) : RoutabilityEvent → Prop
  | .handover coa .. => ∀ bule ∈ mn.bul, mn.Spent coa bule
  | .sendInits dest coa _ => ∀ bule ∈ mn.findBU dest, mn.Spent coa bule
  | .test msg _ => ∀ bule ∈ mn.findBU (mn.testSource msg.srcAddress),
      mn.ignoresTest msg bule = .ok false → mn.careOfAddr = .ok bule.homeAddr →
        bule.lastTimeSent ≠ 0 → bule.homeNonce msg ≠ 0 →
          ∀ tmr ∈ bule.otherTmr msg.kind, tmr.isScheduled = false
  | .brr srcAddress .. => mn.findBU srcAddress = none
  | _ => True

instance spentDecidable (mn : MobileNode) (coa : Ipv6Addr) (bule : BuEntry) : Decidable (mn.Spent coa bule) :=
  inferInstanceAs (Decidable (bule.homeAddr = coa → bule.homeNI = 0 ∨ mn.refusesInits bule = true))

instance answerableDecidable (mn : MobileNode) : (e : RoutabilityEvent) → Decidable (mn.Answerable e)
  | .handover coa .. => inferInstanceAs (Decidable (∀ bule ∈ mn.bul, mn.Spent coa bule))
  | .sendInits dest coa _ => inferInstanceAs (Decidable (∀ bule ∈ mn.findBU dest, mn.Spent coa bule))
  | .test msg _ => inferInstanceAs (Decidable (∀ bule ∈ mn.findBU (mn.testSource msg.srcAddress),
      mn.ignoresTest msg bule = .ok false → mn.careOfAddr = .ok bule.homeAddr →
        bule.lastTimeSent ≠ 0 → bule.homeNonce msg ≠ 0 →
          ∀ tmr ∈ bule.otherTmr msg.kind, tmr.isScheduled = false))
  | .brr srcAddress .. => inferInstanceAs (Decidable (mn.findBU srcAddress = none))
  | .other .. => isTrue trivial
  | .hotiTimeout .. => isTrue trivial
  | .cotiTimeout .. => isTrue trivial

variable {mn mn' : MobileNode} {dest coa hoa : Ipv6Addr} {lifetime : Nat} {timestamp : ℚ}
  {r : Option Registration}

variable {bule : BuEntry}

theorem testSuccess_true (success : bule.testSuccess = .ok true) :
    bule.homeNI ≠ 0 ∧ ∀ now, bule.isPerformingRR false now = false := by
  unfold BuEntry.testSuccess at success
  obtain ⟨hoti, timer, rest⟩ := bind_eq_ok.mp success
  split at rest
  · cases rest
  · rename_i idle
    obtain ⟨coti, timer', rest⟩ := bind_eq_ok.mp rest
    have holds := Except.ok.inj rest
    simp only [Bool.and_eq_true, Bool.not_eq_true', decide_eq_true_eq] at holds
    obtain ⟨⟨idle', nonce⟩, -⟩ := holds
    refine ⟨nonce, fun now => ?_⟩
    unfold BuEntry.isPerformingRR
    rw [if_neg Bool.false_ne_true, (deref_eq_ok _ _ _).mp timer, (deref_eq_ok _ _ _).mp timer']
    dsimp only
    rw [idle', eq_false_of_ne_true idle, Bool.or_self]

/-- A registration of an entry that has its home nonce, with no test in progress and, away from home,
both tests done, fails no check. -/
theorem sendBU_correspondent (early : mn.earlyBindingUpdate = false)
    (found : mn.findBuleFor dest = some bule) (nonce : bule.homeNI ≠ 0)
    (success : coa ≠ hoa → bule.testSuccess = .ok true)
    (idle : bule.isPerformingRR false mn.now = false) (stamped : timestamp ≠ 0) :
    ∃ result, mn.sendBU dest coa hoa lifetime false false timestamp = .ok result := by
  unfold sendBU
  dsimp only
  rw [found, assert_pos (by simp), ok_bind]
  split
  · exact ⟨_, rfl⟩
  · have indices : mn.nonceIndices (some bule) (coa = hoa) =
        .ok (some ⟨bule.homeNI, bule.careOfNI⟩, false, some { bule with homeNI := 0, careOfNI := 0 }) := by
      have passed : (if decide (coa = hoa) = true then Except.ok true else bule.testSuccess) = .ok true := by
        split
        · rfl
        · rename_i away
          exact success (by simpa using away)
      unfold nonceIndices
      rw [deref_some, ok_bind, assert_pos nonce, ok_bind, early,
        if_neg Bool.false_ne_true, passed, ok_bind, assert_pos rfl, ok_bind, idle,
        assert_pos Bool.false_ne_true, ok_bind]
      rfl
    simp only [Bool.not_false, Bool.and_self, if_true, indices, ok_bind]
    rw [assert_pos (by simpa using stamped), ok_bind]
    exact ⟨_, rfl⟩

theorem findBuleFor_testSource {srcAddress : Ipv6Addr}
    (found : mn.findBU (mn.testSource srcAddress) = some bule) : mn.findBuleFor srcAddress = some bule := by
  unfold testSource at found
  unfold findBuleFor
  dsimp only
  split at found
  · rename_i enhanced
    rw [if_pos enhanced]
    cases binding : mn.bc.findBindingByCoA srcAddress with
    | none =>
        rw [binding] at found
        rw [Option.bind_none, Option.none_or]
        exact found
    | some bce =>
        rw [binding] at found
        change mn.findBU bce.homeAddr = _ at found
        rw [Option.bind_some, found, Option.some_or]
  · rename_i plain
    rw [if_neg plain, Option.none_or]
    exact found

theorem findBU_modifyBU_same {bule new : BuEntry} (found : mn.findBU dest = some bule)
    (addr : new.addr = dest) : (mn.modifyBU dest fun _ => new).findBU dest = some new := by
  rw [(Written.modifyBU found addr).findBU, if_pos addr]

theorem careOfAddr_modifyBU {bule new : BuEntry} (found : mn.findBU dest = some bule)
    (addr : new.addr = dest) (same : new.careOfAddr = bule.careOfAddr) :
    (mn.modifyBU dest fun _ => new).careOfAddr = mn.careOfAddr := by
  have lookup (other : Ipv6Addr) : ((mn.modifyBU dest fun _ => new).findBU other).map (·.careOfAddr) =
      (mn.findBU other).map (·.careOfAddr) := by
    rw [(Written.modifyBU found addr).findBU]
    split
    · rename_i at_dest
      rw [← at_dest, addr, found, Option.map_some, Option.map_some, same]
    · rfl
  unfold careOfAddr
  simp only [lookup]
  rfl

variable {msg : TestReply}

theorem tested_idle {bule tested : BuEntry} {now : ℚ} (notes : bule.tested msg false now = .ok tested) (later : ℚ)
    (other : ∀ tmr ∈ bule.otherTmr msg.kind, tmr.isScheduled = false) :
    tested.isPerformingRR false later = false := by
  unfold BuEntry.isPerformingRR
  rw [if_neg Bool.false_ne_true]
  rcases tested_cases notes with ⟨kind, tmr, scheduled, -, off, rfl⟩ | ⟨kind, tmr, -, rfl⟩
  · rw [kind] at other
    cases timer : bule.cotiRetransTmr with
    | none => rfl
    | some coti =>
        dsimp only
        rw [other coti timer, off rfl]
        rfl
  · rw [kind] at other
    cases timer : bule.hotiRetransTmr with
    | none => rfl
    | some hoti =>
        dsimp only
        rw [other hoti timer]
        rfl

theorem tested_homeNI {bule tested : BuEntry} {earlyBU : Bool} {now : ℚ}
    (notes : bule.tested msg earlyBU now = .ok tested) : tested.homeNI = bule.homeNonce msg := by
  unfold BuEntry.homeNonce
  rcases tested_cases notes with ⟨kind, -, -, -, -, rfl⟩ | ⟨kind, -, -, rfl⟩
  · rw [kind]
  · rw [kind]

theorem processTest_registers {call : Registration}
    (home : Entries (fun bule => bule.homeAddr = mn.homeAddr) mn) (early : mn.earlyBindingUpdate = false)
    (answerable : mn.Answerable (.test msg lifetime)) (tests : mn.processTest msg lifetime = .ok (some call, mn')) :
    ∃ result, mn'.sendBU call.dest call.coa call.hoa call.lifetime false false call.timestamp = .ok result := by
  rcases processTest_cases tests with ⟨none, -⟩ | ⟨bule, tested, coa, success, found, accepted, notes, rfl,
    at_coa, succeeds, none | ⟨sends, stamped, why⟩⟩
  · cases none
  · cases none
  · cases sends
    obtain ⟨addr, homeAddr, careOfAddr, lastTimeSent⟩ := tested_keeps notes
    have at_source : tested.addr = mn.testSource msg.srcAddress :=
      addr.trans (BindingUpdateList.findBU_addr found)
    have at_home : tested.homeAddr = mn.homeAddr := homeAddr.trans (home.each found)
    rw [careOfAddr_modifyBU found at_source careOfAddr] at at_coa
    have entry : (mn.modifyBU (mn.testSource msg.srcAddress) fun _ => tested).findBuleFor msg.srcAddress =
        some tested := findBuleFor_testSource (findBU_modifyBU_same found at_source)
    rw [early, if_neg Bool.false_ne_true] at succeeds
    rw [early] at notes
    have still : (mn.modifyBU (mn.testSource msg.srcAddress) fun _ => tested).earlyBindingUpdate = false :=
      early
    rcases why with done | ⟨-, on, -⟩ | ⟨returns, nonce, sent⟩
    · obtain ⟨nonce, idle⟩ := testSuccess_true (done ▸ succeeds)
      exact sendBU_correspondent still entry nonce (fun _ => done ▸ succeeds) (idle _) stamped
    · rw [early] at on
      cases on
    · have alone : ∀ tmr ∈ bule.otherTmr msg.kind, tmr.isScheduled = false := by
        apply answerable bule found accepted
        · rw [at_coa, ← returns, homeAddr]
        · rwa [lastTimeSent] at sent
        · rwa [← tested_homeNI notes]
      apply sendBU_correspondent still entry nonce ?_ (tested_idle notes _ alone) stamped
      intro away
      exact absurd (returns.symm.trans at_home) away

theorem startTests_keeps {bule started : BuEntry} {isNewBU earlyBU ack : Bool} {now : ℚ}
    (starts : bule.startTests dest coa isNewBU earlyBU ack now = .ok started) :
    started.homeAddr = bule.homeAddr ∧ started.homeNI = bule.homeNI := by
  obtain ⟨_, _, _, rfl, -⟩ := startTests_eq starts
  exact ⟨rfl, rfl⟩

theorem sendInits_spent (spent : ∀ bule ∈ mn.findBU dest, mn.Spent coa bule)
    (inits : mn.sendInits dest coa lifetime = .ok (r, mn')) : r = none := by
  rcases sendInits_cases inits with ⟨-, -, -, none, -⟩ | ⟨bule, started, entered, accepted, enters, starts,
    -, rfl⟩
  · exact none
  · obtain ⟨homeAddr, homeNI⟩ := startTests_keeps starts
    apply if_neg
    rintro ⟨home, nonce⟩
    obtain ⟨-, -, -, ⟨found, -⟩ | ⟨-, rfl, -⟩⟩ := testedEntry_cases enters
    · rw [found, Option.any_some] at accepted
      rcases spent bule found (homeAddr.symm.trans home) with used | refused
      · exact nonce (homeNI.trans used)
      · rw [accepted] at refused
        cases refused
    · exact nonce homeNI

/-- Nothing but the lists changes. -/
def Rewrites (mn mn' : MobileNode) : Prop := ∃ bul buRetranTmrs, mn' = { mn with bul, buRetranTmrs }

variable {homeReg mapReg : Bool} {sent : Option (MobilityDatagram BU)}

theorem sendBU_rewrites (sends : mn.sendBU dest coa hoa lifetime homeReg mapReg timestamp = .ok (sent, mn')) :
    mn.Rewrites mn' := by
  rcases sendBU_cases sends with ⟨-, rfl⟩ | ⟨dgram, old, new, -, sending⟩
  · exact ⟨_, _, rfl⟩
  · exact sending.settings

theorem sendInits_rewrites (inits : mn.sendInits dest coa lifetime = .ok (r, mn')) : mn.Rewrites mn' := by
  rcases sendInits_cases inits with ⟨-, -, -, -, rfl⟩ | ⟨bule, started, entered, -, enters, -, rfl, -⟩
  · exact ⟨_, _, rfl⟩
  · obtain ⟨-, -, ⟨bul, rfl⟩, -⟩ := testedEntry_cases enters
    exact ⟨_, _, rfl⟩

theorem finish_rewrites (finishes : finish (r, mn) = .ok mn') : mn.Rewrites mn' := by
  cases r with
  | none =>
      cases finishes
      exact ⟨_, _, rfl⟩
  | some call =>
      obtain ⟨sent, sends⟩ := snd_map_eq_ok finishes
      exact sendBU_rewrites sends

/-- A return home in progress: no entry has a home nonce left without a test. -/
structure Settling (before : MobileNode) (coa : Ipv6Addr) (mn : MobileNode) : Prop where
  now : mn.now = before.now
  early : mn.earlyBindingUpdate = false
  routability : mn.returnRoutability = true
  entries : Entries (before.Spent coa) mn

namespace Settling

variable {before : MobileNode}

theorem rewrites (settling : Settling before coa mn) (rewrites : mn.Rewrites mn')
    (entries : Entries (before.Spent coa) mn') : Settling before coa mn' := by
  obtain ⟨bul, tmrs, rfl⟩ := rewrites
  exact ⟨settling.now, settling.early, settling.routability, entries⟩

theorem refuses (settling : Settling before coa mn) (early : before.earlyBindingUpdate = false) :
    mn.refusesInits = before.refusesInits := by
  unfold refusesInits
  rw [settling.now, settling.early, early]

theorem kept (early : before.earlyBindingUpdate = false) : Kept before.now (before.Spent coa) := by
  intro bule bule' spent follows home
  rcases spent (follows.homeAddr.symm.trans home) with used | refused
  · left
    exact follows.homeNI.elim (fun same => same.trans used) id
  · right
    unfold refusesInits at refused ⊢
    rw [early] at refused ⊢
    apply decide_eq_true
    rcases of_decide_eq_true refused with testing | recent
    · left
      unfold BuEntry.isPerformingRR at testing ⊢
      rwa [follows.hotiRetransTmr, follows.cotiRetransTmr]
    · right
      have positive : 0 < updateInterval := by
        unfold updateInterval
        norm_num
      rcases follows.lastTimeSent with same | late
      · rwa [same]
      · linarith

theorem sendBU {ha : Ipv6Addr} (settling : Settling before coa mn) (early : before.earlyBindingUpdate = false)
    (sends : mn.sendBU ha coa hoa lifetime homeReg mapReg timestamp = .ok (sent, mn')) :
    Settling before coa mn' := by
  apply settling.rewrites (sendBU_rewrites sends)
  apply settling.entries.sendBU (settling.now ▸ kept early) ?_ sends
  exact fun bule untested _ => Or.inl untested.homeNI

theorem sendBUs {addr : Ipv6Addr} (settling : Settling before coa mn) (early : before.earlyBindingUpdate = false)
    (updates : mn.sendBUs coa hoa lifetime addr = .ok (r, mn')) : r = none ∧ Settling before coa mn' := by
  have refuses := settling.refuses early
  rcases sendBUs_cases updates with ⟨none, rfl⟩ | inits | ⟨sent, none, sends⟩ | ⟨off, -, -⟩
  · exact ⟨none, settling⟩
  · refine ⟨sendInits_spent ?_ inits, settling.rewrites (sendInits_rewrites inits) ?_⟩
    · intro bule found home
      rw [refuses]
      exact settling.entries.each found home
    · apply settling.entries.sendInits (fun _ => Or.inl rfl) ?_ inits
      intro bule started isNewBU spent addr found starts home
      obtain ⟨homeAddr, homeNI⟩ := startTests_keeps starts
      left
      rcases found with ⟨-, accepted⟩ | ⟨-, rfl⟩
      · rcases spent (homeAddr.symm.trans home) with used | refused
        · exact homeNI.trans used
        · rw [refuses, refused] at accepted
          cases accepted
      · exact homeNI
  · exact ⟨none, settling.sendBU early sends⟩
  · rw [settling.routability] at off
    cases off

theorem entryCalls {addrs : List Ipv6Addr} (settling : Settling before coa mn)
    (early : before.earlyBindingUpdate = false) : mn.entryCalls coa hoa lifetime addrs = [] := by
  induction addrs generalizing mn with
  | nil => rfl
  | cons addr rest ih =>
      unfold MobileNode.entryCalls
      cases updates : mn.sendBUs coa hoa lifetime addr with
      | error fault => rfl
      | ok call =>
          obtain ⟨r, mn'⟩ := call
          obtain ⟨rfl, after⟩ := settling.sendBUs early updates
          exact ih after

end Settling

/-- A node that uses return routability without early Binding Updates; its entries are all for its home
address. -/
structure Homed (home : Ipv6Addr) (mn : MobileNode) : Prop where
  homeAddr : mn.homeAddr = home
  early : mn.earlyBindingUpdate = false
  routability : mn.returnRoutability = true
  entries : Entries (·.homeAddr = home) mn

variable {e : RoutabilityEvent}

theorem registrations_handle {call : MobileNode × Registration}
    (stays : ¬ ∃ coa awayFromHome lifetime, e = .handover coa awayFromHome lifetime)
    (made : call ∈ mn.registrations e) : ∃ sent, mn.handle e = .ok (sent, some call.2, call.1) := by
  unfold registrations at made
  split at made
  · exact absurd ⟨_, _, _, rfl⟩ stays
  · split at made
    · cases made
    · rename_i sent next handles
      obtain ⟨r, after⟩ := next
      cases r with
      | none => cases made
      | some r =>
          rw [List.mem_singleton.mp made]
          exact ⟨sent, handles⟩

namespace Homed

variable {home : Ipv6Addr}

theorem rewrites (homed : mn.Homed home) (rewrites : mn.Rewrites mn')
    (entries : Entries (·.homeAddr = home) mn') : mn'.Homed home := by
  obtain ⟨bul, tmrs, rfl⟩ := rewrites
  exact ⟨homed.homeAddr, homed.early, homed.routability, entries⟩

theorem kept {now : ℚ} : Kept now (·.homeAddr = home) :=
  fun _ _ same follows => follows.homeAddr.trans same

theorem modifyBU {f : BuEntry → BuEntry} (homed : mn.Homed home)
    (keeps : ∀ bue : BuEntry, bue.addr = dest → (f bue).addr = dest)
    (same : ∀ bue, mn.findBU dest = some bue → (f bue).homeAddr = bue.homeAddr) :
    (mn.modifyBU dest f).Homed home := by
  refine homed.rewrites ⟨_, _, rfl⟩ (homed.entries.modifyBU keeps fun bue found => ?_)
  exact (same bue found).trans (homed.entries.each found)

theorem sendBU {ha : Ipv6Addr} (homed : mn.Homed home) (same : hoa = home)
    (sends : mn.sendBU ha coa hoa lifetime homeReg mapReg timestamp = .ok (sent, mn')) : mn'.Homed home := by
  apply homed.rewrites (sendBU_rewrites sends)
  exact homed.entries.sendBU kept (fun bule untested => untested.homeAddr.trans same) sends

theorem finish (homed : mn.Homed home) (same : ∀ call, r = some call → call.hoa = home)
    (finishes : MobileNode.finish (r, mn) = .ok mn') : mn'.Homed home := by
  apply homed.rewrites (finish_rewrites finishes)
  exact homed.entries.finish kept
    (fun call sends bule untested => untested.homeAddr.trans (same call sends)) finishes

theorem sendInits (homed : mn.Homed home) (inits : mn.sendInits dest coa lifetime = .ok (r, mn')) :
    mn'.Homed home ∧ ∀ call, r = some call → call.hoa = home := by
  constructor
  · apply homed.rewrites (sendInits_rewrites inits)
    apply homed.entries.sendInits homed.homeAddr ?_ inits
    intro bule started isNewBU same addr found starts
    exact (startTests_keeps starts).1.trans same
  · intro call sends
    rcases sendInits_cases inits with ⟨-, -, -, none, -⟩ | ⟨bule, started, entered, -, enters, starts, -, rfl⟩
    · rw [none] at sends
      cases sends
    · have at_home : started.homeAddr = home := by
        rw [(startTests_keeps starts).1]
        obtain ⟨-, -, -, ⟨found, -⟩ | ⟨-, rfl, -⟩⟩ := testedEntry_cases enters
        · exact homed.entries.each found
        · exact homed.homeAddr
      split at sends
      · cases sends
        exact at_home
      · cases sends

theorem sendBUs {addr : Ipv6Addr} (homed : mn.Homed home)
    (updates : mn.sendBUs coa home lifetime addr >>= MobileNode.finish = .ok mn') : mn'.Homed home := by
  obtain ⟨⟨r, middle⟩, sends, rest⟩ := bind_eq_ok.mp updates
  rcases sendBUs_cases sends with ⟨rfl, rfl⟩ | inits | ⟨sent, rfl, registers⟩ | ⟨off, -, -⟩
  · exact homed.finish (r := none) nofun rest
  · obtain ⟨started, same⟩ := homed.sendInits inits
    exact started.finish same rest
  · exact (homed.sendBU rfl registers).finish (r := none) nofun rest
  · rw [homed.routability] at off
    cases off

theorem sendBUToAll {addrs : List Ipv6Addr} (homed : mn.Homed home) (same : hoa = home)
    (updates : mn.sendBUToAll coa hoa lifetime = .ok (mn', addrs)) : mn'.Homed home := by
  rcases sendBUToAll_cases updates with rfl | ⟨ha, sent, sends⟩
  · exact homed
  · exact homed.sendBU same sends

theorem step {e : MobileNodeEvent} (homed : mn.Homed home) (isOther : e.isOther = true)
    (steps : mn.step e = .ok mn') : mn'.Homed home := by
  have entries := homed.entries.step kept isOther steps
  suffices settings : mn'.homeAddr = mn.homeAddr ∧ mn'.earlyBindingUpdate = mn.earlyBindingUpdate ∧
      mn'.returnRoutability = mn.returnRoutability by
    exact ⟨settings.1.trans homed.homeAddr, settings.2.1.trans homed.early,
      settings.2.2.trans homed.routability, entries⟩
  cases e with
  | routability => cases isOther
  | sendBU => cases isOther
  | retransmitBU i =>
      obtain ⟨sent, fires⟩ := snd_map_eq_ok steps
      obtain ⟨tmr, -, ⟨-, -, rfl⟩ | ⟨_, _, _, _, -, -, -, -, rfl⟩ | ⟨-, -, rfl⟩⟩ := retransmitBU_cases fires
      · exact ⟨rfl, rfl, rfl⟩
      · exact ⟨rfl, rfl, rfl⟩
      · exact ⟨rfl, rfl, rfl⟩
  | processBA ba srcAddress =>
      obtain ⟨accepted, acknowledges⟩ := snd_map_eq_ok steps
      rcases processBA_cases acknowledges with ⟨-, -, -, -, rfl⟩ | ⟨stopped, stops, -, rest⟩
      · exact ⟨rfl, rfl, rfl⟩
      · obtain ⟨away, tmrs, rfl⟩ := stopTmr_eq stops
        obtain ⟨-, rfl⟩ | ⟨bue, -, -, ⟨bue', -, rfl⟩ | ⟨-, rfl⟩⟩ := rest
        · exact ⟨rfl, rfl, rfl⟩
        · exact ⟨rfl, rfl, rfl⟩
        · exact ⟨rfl, rfl, rfl⟩
  | _ =>
      cases steps
      exact ⟨rfl, rfl, rfl⟩

theorem fired {addr : Ipv6Addr} {tmr : TIRetransTmr} (homed : mn.Homed home) :
    (mn.modifyBU addr (hotiFired tmr)).Homed home ∧ (mn.modifyBU addr (cotiFired tmr)).Homed home :=
  ⟨homed.modifyBU (fun _ same => same) fun _ _ => rfl, homed.modifyBU (fun _ same => same) fun _ _ => rfl⟩

theorem processTest (homed : mn.Homed home) (tests : mn.processTest msg lifetime = .ok (r, mn')) :
    mn'.Homed home ∧ ∀ call, r = some call → call.hoa = home := by
  rcases processTest_cases tests with ⟨rfl, rfl⟩ | ⟨bule, tested, _, _, found, -, notes, rfl, -, -, sends⟩
  · exact ⟨homed, nofun⟩
  · obtain ⟨addr, same, -⟩ := tested_keeps notes
    constructor
    · refine homed.modifyBU (fun _ _ => addr.trans (BindingUpdateList.findBU_addr found)) fun bue at_dest => ?_
      rw [found] at at_dest
      cases at_dest
      exact same
    · intro call made
      rcases sends with rfl | ⟨rfl, -, -⟩
      · cases made
      · cases made
        exact homed.homeAddr

theorem handle {sent : Option SentTest} (homed : mn.Homed home)
    (answerable : mn.Answerable e) (handles : mn.handle e = .ok (sent, r, mn')) :
    mn'.Homed home ∧ ∀ call, r = some call → call.hoa = home := by
  cases e with
  | other e isOther =>
      obtain ⟨_, steps, rest⟩ := bind_eq_ok.mp handles
      cases rest
      exact ⟨homed.step isOther steps, nofun⟩
  | handover coa awayFromHome lifetime =>
      obtain ⟨⟨middle, addrs⟩, first, rest⟩ := bind_eq_ok.mp handles
      obtain ⟨_, rest, last⟩ := bind_eq_ok.mp rest
      cases last
      have moved : Homed home { mn with awayFromHome } :=
        ⟨homed.homeAddr, homed.early, homed.routability, homed.entries.of_bul rfl⟩
      have first := moved.sendBUToAll homed.homeAddr first
      rw [first.homeAddr] at rest
      exact ⟨(Runs.of_run rest).invariant (Homed home) (fun _ _ _ homed _ => homed.sendBUs) first, nofun⟩
  | sendInits dest coa lifetime =>
      obtain ⟨⟨_, _⟩, inits, rest⟩ := bind_eq_ok.mp handles
      cases rest
      exact homed.sendInits inits
  | hotiTimeout addr cookie tunnel =>
      unfold MobileNode.handle at handles
      dsimp only at handles
      split at handles
      · cases handles
        exact ⟨homed, nofun⟩
      · obtain ⟨⟨_, _⟩, sends, rest⟩ := bind_eq_ok.mp handles
        cases rest
        obtain ⟨bule, tmr, _, found, -, rfl⟩ := sendHoTI_cases sends
        have same : bule.addr = _ := BindingUpdateList.findBU_addr found
        refine ⟨homed.fired.1.modifyBU (fun _ _ => same) fun bue at_dest => ?_, nofun⟩
        rw [found] at at_dest
        cases at_dest
        rfl
  | cotiTimeout addr cookie lifetime =>
      unfold MobileNode.handle at handles
      dsimp only at handles
      split at handles
      · cases handles
        exact ⟨homed, nofun⟩
      · obtain ⟨⟨_, _, _⟩, sends, rest⟩ := bind_eq_ok.mp handles
        cases rest
        obtain ⟨bule, tmr, _, _, found, -, -, rfl, rfl⟩ := sendCoTI_cases sends
        have same : bule.addr = _ := BindingUpdateList.findBU_addr found
        refine ⟨homed.fired.2.modifyBU (fun _ _ => same) fun bue at_dest => ?_, fun call made => ?_⟩
        · rw [found] at at_dest
          cases at_dest
          rfl
        · split at made
          · cases made
            exact homed.homeAddr
          · cases made
  | test msg lifetime =>
      obtain ⟨⟨_, _⟩, tests, rest⟩ := bind_eq_ok.mp handles
      cases rest
      exact homed.processTest tests
  | brr srcAddress destAddress homeAgent =>
      obtain ⟨⟨_, _⟩, requests, rest⟩ := bind_eq_ok.mp handles
      cases rest
      change mn.findBU srcAddress = none at answerable
      unfold processBRR at requests
      rw [answerable] at requests
      cases requests
      exact ⟨homed, nofun⟩

theorem routabilityStep (homed : mn.Homed home) (answerable : mn.Answerable e)
    (steps : mn.routabilityStep e = .ok mn') : mn'.Homed home := by
  obtain ⟨⟨sent, r, middle⟩, handles, finishes⟩ := bind_eq_ok.mp steps
  obtain ⟨middle, same⟩ := homed.handle answerable handles
  exact middle.finish same finishes

theorem registrations (homed : mn.Homed home) (answerable : mn.Answerable e)
    {call : MobileNode × Registration} (made : call ∈ mn.registrations e) :
    ∃ result, call.1.sendBU call.2.dest call.2.coa call.2.hoa call.2.lifetime false false
      call.2.timestamp = .ok result := by
  by_cases moves : ∃ coa awayFromHome lifetime, e = .handover coa awayFromHome lifetime
  · obtain ⟨coa, awayFromHome, lifetime, rfl⟩ := moves
    unfold MobileNode.registrations at made
    dsimp only at made
    split at made
    · cases made
    · rename_i middle addrs first
      have start : Settling { mn with awayFromHome } coa { mn with awayFromHome } :=
        ⟨rfl, homed.early, homed.routability, homed.entries.distinct, fun found =>
          answerable _ (BindingUpdateList.mem_of_findBU found)⟩
      have settling : Settling { mn with awayFromHome } coa middle := by
        rcases sendBUToAll_cases first with rfl | ⟨ha, sent, sends⟩
        · exact start
        · exact start.sendBU homed.early sends
      rw [settling.entryCalls homed.early] at made
      cases made
  · obtain ⟨sent, handles⟩ := registrations_handle moves made
    cases e with
    | handover coa awayFromHome lifetime => exact absurd ⟨_, _, _, rfl⟩ moves
    | other e isOther =>
        obtain ⟨_, -, rest⟩ := bind_eq_ok.mp handles
        cases rest
    | sendInits dest coa lifetime =>
        obtain ⟨⟨_, _⟩, inits, rest⟩ := bind_eq_ok.mp handles
        cases rest
        cases sendInits_spent answerable inits
    | hotiTimeout addr cookie tunnel =>
        unfold MobileNode.handle at handles
        dsimp only at handles
        split at handles
        · cases handles
        · obtain ⟨_, -, rest⟩ := bind_eq_ok.mp handles
          cases rest
    | cotiTimeout addr cookie lifetime =>
        unfold MobileNode.handle at handles
        dsimp only at handles
        split at handles
        · cases handles
        · obtain ⟨⟨_, _, _⟩, sends, rest⟩ := bind_eq_ok.mp handles
          cases rest
          obtain ⟨bule, tmr, _, _, -, -, -, early, -⟩ := sendCoTI_cases sends
          split at early
          · rename_i on
            cases homed.early.symm.trans on.1
          · cases early
    | test msg lifetime =>
        obtain ⟨⟨_, _⟩, tests, rest⟩ := bind_eq_ok.mp handles
        cases rest
        exact processTest_registers (homed.homeAddr ▸ homed.entries) homed.early answerable tests
    | brr srcAddress destAddress homeAgent =>
        obtain ⟨⟨_, _⟩, requests, rest⟩ := bind_eq_ok.mp handles
        cases rest
        change mn.findBU srcAddress = none at answerable
        unfold processBRR at requests
        rw [answerable] at requests
        cases requests

end Homed

end MobileNode

/-- In a run of events that are answerable, each call of `sendBU` for a correspondent node passes its
checks. -/
theorem registration_asserts {start mn : MobileNode} {es : List RoutabilityEvent} {e : RoutabilityEvent}
    (empty : start.bul = []) (routability : start.returnRoutability = true)
    (early : start.earlyBindingUpdate = false)
    (runs : Runs MobileNode.routabilityStep MobileNode.Answerable start es mn)
    (answerable : mn.Answerable e) {call : MobileNode × Registration}
    (made : call ∈ mn.registrations e) :
    ∃ result, call.1.sendBU call.2.dest call.2.coa call.2.hoa call.2.lifetime false false
      call.2.timestamp = .ok result := by
  have homed : mn.Homed start.homeAddr :=
    runs.invariant (MobileNode.Homed start.homeAddr) (fun _ _ _ => MobileNode.Homed.routabilityStep)
      ⟨rfl, early, routability, MobileNode.Entries.nil empty⟩
  exact homed.registrations answerable made

namespace MobileNode

def exampleRoutability : MobileNode :=
  { MobileNode.create ⟨1, 0, 0, 1⟩ ⟨1, 0, 0, 2⟩ with now := 10, returnRoutability := true }

/-- A handover, the tests of a correspondent node, and the answer to the home test -/
def exampleTests : List RoutabilityEvent :=
  [.handover ⟨2, 0, 0, 1⟩ true 60, .sendInits ⟨9, 0, 0, 9⟩ ⟨2, 0, 0, 1⟩ 60,
    .wait (10 + selfScheduleDelay), .hotiTimeout ⟨9, 0, 0, 9⟩ 7 true,
    .cotiTimeout ⟨9, 0, 0, 9⟩ 8 60, .test ⟨.hot, ⟨9, 0, 0, 9⟩, ⟨1, 0, 0, 1⟩, 7, 5, 10⟩ 60]

def exampleCoT : RoutabilityEvent := .test ⟨.cot, ⟨9, 0, 0, 9⟩, ⟨2, 0, 0, 1⟩, 8, 6, 10⟩ 60

def exampleCall : Registration := ⟨⟨9, 0, 0, 9⟩, ⟨2, 0, 0, 1⟩, ⟨1, 0, 0, 1⟩, 60, 10⟩

theorem registration_asserts_example :
    ∃ mn call, Runs routabilityStep Answerable exampleRoutability exampleTests mn ∧
      call ∈ mn.registrations exampleCoT ∧ call.2 = exampleCall ∧
      ∃ result, call.1.sendBU call.2.dest call.2.coa call.2.hoa call.2.lifetime false false
        call.2.timestamp = .ok result := by
  have checked : (run (fun mn e => Exec.assert (mn.Answerable e) >>= fun _ => mn.routabilityStep e)
      exampleRoutability exampleTests).map (fun mn => (decide (mn.Answerable exampleCoT),
        (mn.registrations exampleCoT).map (·.2))) = .ok (true, [exampleCall]) := by decide +kernel
  obtain ⟨mn, ends, same⟩ := map_eq_ok checked
  obtain ⟨answerable, made⟩ := Prod.mk.inj same
  have runs := Runs.of_checked ends
  obtain ⟨call, member, same⟩ := List.mem_map.mp (made ▸ List.mem_singleton_self exampleCall)
  exact ⟨mn, call, runs, member, same,
    registration_asserts rfl rfl rfl runs (of_decide_eq_true answerable) member⟩

/-- A correspondent node that is registered asks for a refresh. -/
theorem registration_asserts_fails :
    (run routabilityStep exampleRoutability (exampleTests ++ [exampleCoT])).map (fun mn =>
        (mn.registrations (.brr ⟨9, 0, 0, 9⟩ ⟨1, 0, 0, 1⟩ false)).map fun call =>
          (call.2, (call.1.sendBU call.2.dest call.2.coa call.2.hoa call.2.lifetime false false
            call.2.timestamp).map fun _ => ())) =
      .ok [(⟨⟨9, 0, 0, 9⟩, ⟨1, 0, 0, 2⟩, ⟨1, 0, 0, 1⟩, 30000, 0⟩, .error .assertFailed)] := by
  decide +kernel

end MobileNode

end IPv6Suite
