import IPv6Suite.MIPv6ReturnRoutability

namespace IPv6Suite

open Lib

structure BuEntry.TestsFor (coa : Ipv6Addr) (bule : BuEntry) : Prop where
  coa : ∀ tmr, bule.cotiRetransTmr = some tmr → tmr.isScheduled = true → tmr.coa = coa
  dest : ∀ tmr, bule.cotiRetransTmr = some tmr → tmr.isScheduled = true → tmr.dest = bule.addr

namespace BuEntry.TestsFor

variable {bule bule' : BuEntry} {coa : Ipv6Addr}

theorem of_timers (tests : bule.TestsFor coa) (addr : bule'.addr = bule.addr)
    (timers : ∀ tmr, bule'.cotiRetransTmr = some tmr → tmr.isScheduled = true →
      bule.cotiRetransTmr = some tmr) : bule'.TestsFor coa where
  coa tmr timer scheduled := tests.coa tmr (timers tmr timer scheduled) scheduled
  dest tmr timer scheduled := (tests.dest tmr (timers tmr timer scheduled) scheduled).trans addr.symm

variable {now : ℚ}

theorem kept : MobileNode.Kept now (TestsFor coa) := by
  intro bule bule' tests follows
  refine tests.of_timers follows.addr fun tmr timer _ => ?_
  rwa [follows.cotiRetransTmr] at timer

theorem idle (timers : ∀ tmr, bule.cotiRetransTmr = some tmr → tmr.isScheduled = false) : bule.TestsFor coa where
  coa tmr timer scheduled := by
    rw [timers tmr timer] at scheduled
    cases scheduled
  dest tmr timer scheduled := by
    rw [timers tmr timer] at scheduled
    cases scheduled

theorem untested {hoa : Ipv6Addr} (untested : bule.Untested hoa) : bule.TestsFor coa := by
  apply idle
  intro tmr timer
  rw [untested.cotiRetransTmr] at timer
  cases timer

theorem createTested {dest hoa latest : Ipv6Addr} {lifetime : Nat} :
    (BuEntry.createTested dest hoa coa lifetime).TestsFor latest := by
  apply idle
  intro tmr timer
  cases timer
  rfl

theorem tested {msg : TestReply} {earlyBU : Bool} (tests : bule.TestsFor coa)
    (notes : bule.tested msg earlyBU now = .ok bule') : bule'.TestsFor coa := by
  rcases MobileNode.tested_cases notes with ⟨-, -, -, -, -, rfl⟩ | ⟨-, tmr, -, rfl⟩
  · exact tests.of_timers rfl fun _ timer _ => timer
  · apply idle
    intro stopped timer
    cases timer
    rfl

end BuEntry.TestsFor

/-- A mobile node with the address of its latest handover, and the CoTIs that it has sent, each with
that address at the time -/
structure TestHistory where
  node : MobileNode
  latest : Ipv6Addr
  sent : List (SentTest × Ipv6Addr)

namespace TestHistory

def latestAfter (h : TestHistory) : RoutabilityEvent → Ipv6Addr
  | .handover coa .. => coa
  | _ => h.latest

def step (h : TestHistory) (e : RoutabilityEvent) : Exec TestHistory := do
  let (sent, call) ← h.node.handle e
  let node ← MobileNode.finish call
  let cotis := (sent.filter (·.kind = .cot)).toList
  return ⟨node, h.latestAfter e, h.sent ++ cotis.map fun coti => (coti, h.latest)⟩

/-- A handover finds no care-of test scheduled for another address than the new one, and a test that
is started between handovers is for the latest one or for home. -/
def Renews (h : TestHistory) : RoutabilityEvent → Prop
  | .handover coa .. => ∀ bule ∈ h.node.bul, ∀ tmr ∈ bule.cotiRetransTmr,
      tmr.isScheduled = true → tmr.coa = coa
  | .sendInits dest coa _ => coa = h.latest ∨
      ((h.node.findBU dest).map (·.homeAddr)).getD h.node.homeAddr = coa
  | _ => True

instance renewsDecidable (h : TestHistory) : (e : RoutabilityEvent) → Decidable (h.Renews e)
  | .handover coa .. => inferInstanceAs (Decidable (∀ bule ∈ h.node.bul, ∀ tmr ∈ bule.cotiRetransTmr,
      tmr.isScheduled = true → tmr.coa = coa))
  | .sendInits dest coa _ => inferInstanceAs (Decidable (coa = h.latest ∨
      ((h.node.findBU dest).map (·.homeAddr)).getD h.node.homeAddr = coa))
  | .other .. => isTrue trivial
  | .hotiTimeout .. => isTrue trivial
  | .cotiTimeout .. => isTrue trivial
  | .test .. => isTrue trivial
  | .brr .. => isTrue trivial

end TestHistory

namespace MobileNode

variable {mn mn' : MobileNode} {dest coa hoa latest : Ipv6Addr} {lifetime : Nat}
  {r : Option Registration}

theorem startTests_testsFor {bule started : BuEntry} {isNewBU earlyBU ack : Bool} {now : ℚ}
    (addr : bule.addr = dest) (current : coa = latest ∨ bule.homeAddr = coa)
    (starts : bule.startTests dest coa isNewBU earlyBU ack now = .ok started) : started.TestsFor latest := by
  unfold BuEntry.startTests at starts
  obtain ⟨coti, -, rest⟩ := bind_eq_ok.mp starts
  obtain ⟨hoti, -, rest⟩ := bind_eq_ok.mp rest
  cases rest
  by_cases home : bule.homeAddr = coa
  · apply BuEntry.TestsFor.idle
    intro tmr timer
    dsimp only at timer
    rw [if_pos home] at timer
    cases timer
    rfl
  · have same : coa = latest := current.resolve_right home
    refine ⟨fun tmr timer _ => ?_, fun tmr timer _ => ?_⟩
    · dsimp only at timer
      rw [if_neg home] at timer
      cases timer
      exact same
    · dsimp only at timer
      rw [if_neg home] at timer
      cases timer
      exact addr.symm

theorem sendInits_testsFor (entries : Entries (BuEntry.TestsFor latest) mn)
    (current : coa = latest ∨ ((mn.findBU dest).map (·.homeAddr)).getD mn.homeAddr = coa)
    (inits : mn.sendInits dest coa lifetime = .ok (r, mn')) : Entries (BuEntry.TestsFor latest) mn' := by
  refine entries.sendInits BuEntry.TestsFor.createTested ?_ inits
  intro bule started isNewBU _ addr found starts
  apply startTests_testsFor addr ?_ starts
  rcases current with same | home
  · exact Or.inl same
  · right
    rcases found with ⟨found, -⟩ | ⟨absent, rfl⟩
    · rwa [found] at home
    · rwa [absent] at home

variable {addr : Ipv6Addr}

theorem sendBUs_testsFor (entries : Entries (BuEntry.TestsFor coa) mn)
    (updates : mn.sendBUs coa hoa lifetime addr >>= finish = .ok mn') : Entries (BuEntry.TestsFor coa) mn' := by
  obtain ⟨⟨r, middle⟩, sends, rest⟩ := bind_eq_ok.mp updates
  have entries : Entries (BuEntry.TestsFor coa) middle := by
    rcases sendBUs_cases sends with ⟨-, rfl⟩ | inits | ⟨sent, -, sends⟩ | ⟨-, -, rfl⟩
    · exact entries
    · exact sendInits_testsFor entries (Or.inl rfl) inits
    · exact entries.sendBU BuEntry.TestsFor.kept (fun _ => BuEntry.TestsFor.untested) sends
    · exact entries
  exact entries.finish BuEntry.TestsFor.kept (fun _ _ _ => BuEntry.TestsFor.untested) rest

theorem handover_testsFor {middle : MobileNode} {addrs : List Ipv6Addr} {hoa' : Ipv6Addr}
    (entries : Entries (BuEntry.TestsFor coa) mn) (first : mn.sendBUToAll coa hoa lifetime = .ok (middle, addrs))
    (rest : updateEntries coa hoa' lifetime middle addrs = .ok mn') : Entries (BuEntry.TestsFor coa) mn' := by
  have entries : Entries (BuEntry.TestsFor coa) middle := by
    rcases sendBUToAll_cases first with rfl | ⟨ha, sent, sends⟩
    · exact entries
    · exact entries.sendBU BuEntry.TestsFor.kept (fun _ => BuEntry.TestsFor.untested) sends
  exact (Runs.of_run rest).invariant (Entries (BuEntry.TestsFor coa))
    (fun _ _ _ entries _ => sendBUs_testsFor entries) entries

variable {sent : SentTest} {tmr : TIRetransTmr} {cookie : BitVec 32}

theorem cotiTimeout_testsFor (entries : Entries (BuEntry.TestsFor latest) mn) (due : mn.cotiDue addr = some tmr)
    (sends : (mn.modifyBU addr (cotiFired tmr)).sendCoTI tmr.dest tmr.coa tmr.timestamp cookie lifetime =
      .ok (sent, r, mn')) : sent.srcAddress = latest ∧ Entries (BuEntry.TestsFor latest) mn' := by
  obtain ⟨timer, scheduled⟩ := Option.filter_eq_some_iff.mp due
  obtain ⟨bule, found, timer⟩ := Option.bind_eq_some_iff.mp timer
  have armed : tmr.isScheduled = true := by
    rw [TIRetransTmr.isScheduled, of_decide_eq_true scheduled]
    rfl
  have bound : tmr.coa = latest := (entries.each found).coa tmr timer armed
  have at_addr : tmr.dest = addr :=
    ((entries.each found).dest tmr timer armed).trans (BindingUpdateList.findBU_addr found)
  have fired : (mn.modifyBU addr (cotiFired tmr)).findBU addr = some (cotiFired tmr bule) := by
    have keeps : ∀ bue : BuEntry, bue.addr = addr → (cotiFired tmr bue).addr = addr := fun _ same => same
    change (mn.bul.modifyBU addr _).findBU addr = _
    rw [BindingUpdateList.findBU_modifyBU_same keeps]
    change (mn.findBU addr).map _ = _
    rw [found, Option.map_some]
  rw [at_addr] at sends
  obtain ⟨bule', tmr', again, careOfInitTimeout, found', timer', rfl, -, rfl⟩ := sendCoTI_cases sends
  cases fired.symm.trans found'
  cases timer'
  refine ⟨bound, ?_⟩
  have idle : Entries (BuEntry.TestsFor latest) (mn.modifyBU addr (cotiFired tmr)) :=
    entries.modifyBU (fun _ same => same) fun _ _ => BuEntry.TestsFor.idle fun tmr timer => by
      cases timer
      rfl
  have same : bule.addr = addr := BindingUpdateList.findBU_addr found
  refine idle.modifyBU (fun _ _ => same) fun _ _ => ⟨fun tmr timer _ => ?_, fun tmr timer _ => ?_⟩
  · cases timer
    exact bound
  · cases timer
    exact at_addr.trans same.symm

theorem hotiTimeout_testsFor {tunnel : Bool} (entries : Entries (BuEntry.TestsFor latest) mn)
    (sends : (mn.modifyBU addr (hotiFired tmr)).sendHoTI tmr.dest tmr.timestamp cookie tunnel = .ok (sent, mn')) :
    sent.kind = .hot ∧ Entries (BuEntry.TestsFor latest) mn' := by
  have fired : Entries (BuEntry.TestsFor latest) (mn.modifyBU addr (hotiFired tmr)) :=
    entries.modifyBU (fun _ same => same) fun _ found =>
      (entries.each found).of_timers rfl fun _ timer _ => timer
  obtain ⟨bule, again, homeInitTimeout, found, rfl, rfl⟩ := sendHoTI_cases sends
  have same : bule.addr = tmr.dest := BindingUpdateList.findBU_addr found
  exact ⟨rfl, fired.modifyBU (fun _ _ => same) fun _ _ =>
    (fired.each found).of_timers rfl fun _ timer _ => timer⟩

end MobileNode

namespace TestHistory

open MobileNode

variable {h h' : TestHistory} {e : RoutabilityEvent}

/-- Each care-of test that is scheduled is for the latest care-of address, as were those sent. -/
structure Current (h : TestHistory) : Prop where
  entries : Entries (BuEntry.TestsFor h.latest) h.node
  sent : ∀ coti ∈ h.sent, coti.1.srcAddress = coti.2

theorem Current.handle {mn : MobileNode} {sent : Option SentTest} {r : Option Registration}
    (current : h.Current) (renews : h.Renews e) (handles : h.node.handle e = .ok (sent, r, mn)) :
    (∀ coti ∈ sent, coti.kind = .cot → coti.srcAddress = h.latest) ∧
      Entries (BuEntry.TestsFor (h.latestAfter e)) mn := by
  have entries := current.entries
  cases e with
  | other e isOther =>
      obtain ⟨mn, steps, rest⟩ := bind_eq_ok.mp handles
      cases rest
      exact ⟨nofun, entries.step BuEntry.TestsFor.kept isOther steps⟩
  | handover coa awayFromHome lifetime =>
      obtain ⟨⟨middle, addrs⟩, first, rest⟩ := bind_eq_ok.mp handles
      obtain ⟨mn, rest, last⟩ := bind_eq_ok.mp rest
      cases last
      have renewed : Entries (BuEntry.TestsFor coa) h.node :=
        ⟨entries.distinct, fun {addr bule} found =>
          ⟨renews bule (BindingUpdateList.mem_of_findBU found), (entries.each found).dest⟩⟩
      have moved : Entries (BuEntry.TestsFor coa) { h.node with awayFromHome } := renewed.of_bul rfl
      exact ⟨nofun, handover_testsFor moved first rest⟩
  | sendInits dest coa lifetime =>
      obtain ⟨⟨r, mn⟩, inits, rest⟩ := bind_eq_ok.mp handles
      cases rest
      exact ⟨nofun, sendInits_testsFor entries renews inits⟩
  | hotiTimeout addr cookie tunnel =>
      unfold MobileNode.handle at handles
      dsimp only at handles
      split at handles
      · cases handles
        exact ⟨nofun, entries⟩
      · obtain ⟨⟨hoti, mn⟩, sends, rest⟩ := bind_eq_ok.mp handles
        cases rest
        obtain ⟨kind, after⟩ := hotiTimeout_testsFor entries sends
        refine ⟨fun coti member cot => ?_, after⟩
        cases member
        rw [kind] at cot
        cases cot
  | cotiTimeout addr cookie lifetime =>
      unfold MobileNode.handle at handles
      dsimp only at handles
      split at handles
      · cases handles
        exact ⟨nofun, entries⟩
      · rename_i tmr due
        obtain ⟨⟨coti, r, mn⟩, sends, rest⟩ := bind_eq_ok.mp handles
        cases rest
        obtain ⟨source, after⟩ := cotiTimeout_testsFor entries due sends
        refine ⟨fun coti member _ => ?_, after⟩
        cases member
        exact source
  | test msg lifetime =>
      obtain ⟨⟨r, mn⟩, processes, rest⟩ := bind_eq_ok.mp handles
      cases rest
      exact ⟨nofun, entries.processTest (fun _ _ => BuEntry.TestsFor.tested) processes⟩
  | brr srcAddress destAddress homeAgent =>
      obtain ⟨⟨r, mn⟩, processes, rest⟩ := bind_eq_ok.mp handles
      cases rest
      exact ⟨nofun, entries.of_bul (processBRR_bul processes)⟩

theorem Current.step (current : h.Current) (renews : h.Renews e) (steps : h.step e = .ok h') : h'.Current := by
  obtain ⟨⟨sent, r, mn⟩, handles, rest⟩ := bind_eq_ok.mp steps
  obtain ⟨node, finishes, rest⟩ := bind_eq_ok.mp rest
  cases rest
  obtain ⟨source, entries⟩ := current.handle renews handles
  refine ⟨entries.finish BuEntry.TestsFor.kept (fun _ _ _ => BuEntry.TestsFor.untested) finishes, ?_⟩
  intro coti member
  rcases List.mem_append.mp member with before | last
  · exact current.sent coti before
  · obtain ⟨message, sends, rfl⟩ := List.mem_map.mp last
    obtain ⟨sends, kind⟩ := Option.mem_filter_iff.mp (Option.mem_toList.mp sends)
    exact source message sends (of_decide_eq_true kind)

end TestHistory

/-- In a run in which each handover renews the care-of tests that are scheduled, every CoTI carries the
care-of address of the latest handover. -/
theorem care_of_test {start h : TestHistory} {es : List RoutabilityEvent} (empty : start.node.bul = [])
    (unsent : start.sent = []) (runs : Runs TestHistory.step TestHistory.Renews start es h) :
    ∀ coti ∈ h.sent, coti.1.srcAddress = coti.2 := by
  have current : h.Current := by
    apply runs.invariant TestHistory.Current (fun _ _ _ => TestHistory.Current.step)
    refine ⟨MobileNode.Entries.nil empty, ?_⟩
    rw [unsent]
    exact nofun
  exact current.sent

namespace TestHistory

def exampleTests : TestHistory where
  node := { MobileNode.create ⟨1, 0, 0, 1⟩ ⟨1, 0, 0, 2⟩ with now := 10, returnRoutability := true }
  latest := ⟨1, 0, 0, 1⟩
  sent := []

/-- A handover, after which the tests of a correspondent node are started -/
def exampleMove : List RoutabilityEvent :=
  [.handover ⟨2, 0, 0, 1⟩ true 60, .sendInits ⟨9, 0, 0, 9⟩ ⟨2, 0, 0, 1⟩ 60,
    .wait (10 + selfScheduleDelay), .cotiTimeout ⟨9, 0, 0, 9⟩ 7 60]

def exampleCoTI (time : ℚ) (cookie : BitVec 32) : SentTest :=
  ⟨.cot, ⟨2, 0, 0, 1⟩, ⟨9, 0, 0, 9⟩, cookie, time⟩

theorem care_of_test_example :
    ∃ h, Runs TestHistory.step TestHistory.Renews exampleTests exampleMove h ∧ h.sent.length = 1 ∧
      ∀ coti ∈ h.sent, coti.1.srcAddress = coti.2 := by
  have checked : (run (fun h e => Exec.assert (h.Renews e) >>= fun _ => h.step e) exampleTests
      exampleMove).map (·.sent.length) = .ok 1 := by decide +kernel
  obtain ⟨h, ends, count⟩ := map_eq_ok checked
  have runs := Runs.of_checked ends
  exact ⟨h, runs, count, care_of_test rfl rfl runs⟩

/-- The node moves on before the test is answered, and sends the next CoTI from the address that it
has left. -/
theorem care_of_test_fails :
    (run TestHistory.step exampleTests (exampleMove ++ [.handover ⟨3, 0, 0, 1⟩ true 60,
      .wait (11 + selfScheduleDelay), .cotiTimeout ⟨9, 0, 0, 9⟩ 8 60])).map (·.sent) =
      .ok [(exampleCoTI 10 7, ⟨2, 0, 0, 1⟩), (exampleCoTI 10 8, ⟨3, 0, 0, 1⟩)] ∧
    (exampleCoTI 10 8).srcAddress ≠ ⟨3, 0, 0, 1⟩ := by
  decide +kernel

end TestHistory

end IPv6Suite
