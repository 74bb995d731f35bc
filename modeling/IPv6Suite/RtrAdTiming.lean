import IPv6Suite.Lib.Beacon
import IPv6Suite.RtrAdTimer

namespace IPv6Suite

open Lib

/-- A router with the interface and the time of each advertisement to all nodes, and of each solicitation
that it has taken -/
structure RtrAdHistory where
  router : NDStateRouter
  ads : List (Nat × SimTime)
  sols : List (Nat × SimTime)

namespace RtrAdHistory

def start (mobilitySupport : Bool) (vars : List RouterVariables) : RtrAdHistory :=
  ⟨.create mobilitySupport vars, [], []⟩

def step (h : RtrAdHistory) (e : NDStateRouter.Event) : Exec RtrAdHistory := do
  let (outputs, router) ← h.router.step e
  return ⟨router, h.ads ++ (outputs.filterMap (·.multicast)).map (·, h.router.now),
    h.sols ++ (h.router.solicited e).toList.map (·, h.router.now)⟩

/-- The times of the advertisements on an interface -/
def adsOn (h : RtrAdHistory) (i : Nat) : List SimTime := (h.ads.filter (·.1 = i)).map (·.2)

def solsOn (h : RtrAdHistory) (i : Nat) : List SimTime := (h.sols.filter (·.1 = i)).map (·.2)

/-- A history as it is seen from an interface -/
def beacon (h : RtrAdHistory) (i : Nat) : Beacon SimTime := ⟨h.router.now, h.router.timerOf i, h.adsOn i, h.solsOn i⟩

variable {h h' : RtrAdHistory} {s₀ : NDStateRouter} {e : NDStateRouter.Event} {es : List NDStateRouter.Event}

theorem times_append (entries : List (Nat × SimTime)) (on : List Nat) (now : SimTime) (i : Nat) :
    ((entries ++ on.map (·, now)).filter (·.1 = i)).map (·.2) =
      (entries.filter (·.1 = i)).map (·.2) ++ (on.filter (· = i)).map fun _ => now := by
  rw [List.filter_append, List.map_append, List.filter_map, List.map_map]
  rfl

theorem times_own (j : Nat) (now : SimTime) : (([j].filter (· = j)).map fun _ => now) = [now] := by
  rw [List.filter_cons_of_pos (p := fun k => decide (k = j)) (decide_eq_true rfl), List.filter_nil]
  rfl

theorem times_other {i j : Nat} (differs : j ≠ i) (now : SimTime) :
    (([j].filter (· = i)).map fun _ => now) = [] := by
  rw [List.filter_cons_of_neg (p := fun k => decide (k = i)) (mt of_decide_eq_true differs), List.filter_nil]
  rfl

theorem beacon_step (ready : NDStateRouter.Ready s₀ h.router)
    (off : ∀ ie ∈ s₀.interfaces, ie.rtrVar.fastRA = false) (admits : h.router.Admits e) (steps : h.step e = .ok h')
    (i : Nat) : NDStateRouter.Ready s₀ h'.router ∧ ∃ label, (h.beacon i).Allows (s₀.advGap i) label ∧
      (h.router.Punctual e → (h.beacon i).Prompt (s₀.minDelayBetweenRas + maxRaDelayTime) label) ∧
      h'.beacon i = (h.beacon i).after label := by
  obtain ⟨⟨outputs, router⟩, routes, ends⟩ := bind_eq_ok.mp steps
  cases ends
  obtain ⟨ready', moves⟩ := NDStateRouter.step_moves ready off admits routes
  refine ⟨ready', ?_⟩
  have undelayed : ∀ j, h.router.solicited e = some j → h.router.Punctual e → h.router.Undelayed router := by
    intro j taken punctual
    cases e with
    | processRtrSol rs ngbr delay => exact (NDStateRouter.undelayed_iff ready off routes).mpr punctual
    | _ => cases taken
  have seen : ∀ sent : List Nat, ∀ taken : Option Nat, beacon ⟨router, h.ads ++ sent.map (·, h.router.now),
      h.sols ++ taken.toList.map (·, h.router.now)⟩ i = ⟨router.now, router.timerOf i,
        h.adsOn i ++ (sent.filter (· = i)).map fun _ => h.router.now,
        h.solsOn i ++ (taken.toList.filter (· = i)).map fun _ => h.router.now⟩ := by
    intro sent taken
    unfold beacon adsOn solsOn
    rw [times_append, times_append]
  rw [seen]
  generalize (outputs.filterMap fun output => output.multicast) = sent at moves ⊢
  generalize taken_eq : h.router.solicited e = taken at moves undelayed ⊢
  cases moves with
  | idle now same =>
      refine ⟨.idle, trivial, fun _ => trivial, ?_⟩
      rw [now, same]
      exact congrArg₂ (Beacon.mk _ _) (List.append_nil _) (List.append_nil _)
  | wait forward inside same =>
      refine ⟨.advance router.now, ⟨forward, inside i⟩, fun _ => trivial, ?_⟩
      rw [same]
      exact congrArg₂ (Beacon.mk _ _) (List.append_nil _) (List.append_nil _)
  | fire j due now reached ahead far set others =>
      by_cases own : j = i
      · subst own
        refine ⟨.fire due, ⟨reached, ahead, far⟩, fun _ => trivial, ?_⟩
        rw [now, set, times_own]
        exact congrArg (Beacon.mk _ _ _) (List.append_nil _)
      · refine ⟨.idle, trivial, fun _ => trivial, ?_⟩
        rw [now, others i (Ne.symm own), times_other own]
        exact congrArg₂ (Beacon.mk _ _) (List.append_nil _) (List.append_nil _)
  | ask j delay p now drawn scheduled set others =>
      by_cases own : j = i
      · subst own
        have gap_le : s₀.advGap j ≤ h.router.minDelayBetweenRas := by
          rw [ready.minDelay]
          exact min_le_left _ _
        refine ⟨.request (h.router.limited delay p), ⟨p, scheduled, fun due moved => ?_⟩, fun punctual p' scheduled' past => ?_, ?_⟩
        · obtain ⟨ahead, far⟩ := NDStateRouter.limited_ahead drawn.1 due moved
          exact ⟨ahead, (add_le_add_right gap_le p.1).trans far⟩
        · cases scheduled.symm.trans scheduled'
          have kept := undelayed j rfl punctual j p scheduled _ set
          rw [← ready.minDelay]
          refine ⟨?_, NDStateRouter.limited_soon past drawn.2⟩
          cases moved : h.router.limited delay p with
          | none => exact le_rfl
          | some due =>
              rw [moved] at kept
              exact kept
        · rw [now, set, Option.toList_some, times_own]
          cases h.router.limited delay p with
          | none =>
              rw [Option.map_none, Option.getD_none, ← scheduled]
              exact congrArg (Beacon.mk _ _ · _) (List.append_nil _)
          | some due => exact congrArg (Beacon.mk _ _ · _) (List.append_nil _)
      · refine ⟨.idle, trivial, fun _ => trivial, ?_⟩
        rw [now, others i (Ne.symm own), Option.toList_some, times_other own]
        exact congrArg₂ (Beacon.mk _ _) (List.append_nil _) (List.append_nil _)

theorem beacon_runs {strict : Prop} (ready : NDStateRouter.Ready s₀ h.router)
    (off : ∀ ie ∈ s₀.interfaces, ie.rtrVar.fastRA = false)
    (runs : Runs step (fun h e => h.router.Admits e ∧ (strict → h.router.Punctual e)) h es h') (i : Nat) :
    NDStateRouter.Ready s₀ h'.router ∧ ∃ labels, Runs Beacon.step (fun b label => b.Allows (s₀.advGap i) label ∧
      (strict → b.Prompt (s₀.minDelayBetweenRas + maxRaDelayTime) label)) (h.beacon i) labels (h'.beacon i) := by
  induction runs with
  | nil h => exact ⟨ready, [], .nil _⟩
  | cons meets steps _ ih =>
      obtain ⟨ready', label, allowed, prompt, next⟩ := beacon_step ready off meets.1 steps i
      obtain ⟨ready'', labels, rest⟩ := ih ready'
      refine ⟨ready'', label :: labels, .cons ⟨allowed, fun strict => prompt (meets.2 strict)⟩ ?_ rest⟩
      exact congrArg Except.ok next.symm

theorem off_create {mobilitySupport : Bool} {vars : List RouterVariables}
    (off : ∀ rtrVar ∈ vars, rtrVar.fastRA = false) :
    ∀ ie ∈ (NDStateRouter.create mobilitySupport vars).interfaces, ie.rtrVar.fastRA = false := by
  intro ie member
  obtain ⟨rtrVar, here, rfl⟩ := List.mem_map.mp member
  exact off rtrVar here

end RtrAdHistory

/-- With fast router advertisements off, the advertisements to all nodes are spaced on every interface, a
solicitation puts none off exactly if it is punctual, and in a run in which all are punctual, each one is
answered within `MIN_DELAY_BETWEEN_RAS` and `MAX_RA_DELAY_TIME`. -/
theorem router_advertisements (mobilitySupport : Bool) (vars : List RouterVariables)
    (off : ∀ rtrVar ∈ vars, rtrVar.fastRA = false) :
    (∀ es h, Runs RtrAdHistory.step (fun h e => h.router.Admits e) (.start mobilitySupport vars) es h →
      (∀ i, (h.adsOn i).Pairwise fun t t' => t + (NDStateRouter.create mobilitySupport vars).advGap i ≤ t') ∧
      ∀ rs ngbr delay outputs s', h.router.step (.processRtrSol rs ngbr delay) = .ok (outputs, s') →
        (h.router.Undelayed s' ↔ h.router.Punctual (.processRtrSol rs ngbr delay))) ∧
    ∀ es h, Runs RtrAdHistory.step (fun h e => h.router.Admits e ∧ h.router.Punctual e)
      (.start mobilitySupport vars) es h →
      ∀ i, ∀ t ∈ h.solsOn i, t + (h.router.minDelayBetweenRas + maxRaDelayTime) < h.router.now →
        ∃ t' ∈ h.adsOn i, t ≤ t' ∧ t' ≤ t + (h.router.minDelayBetweenRas + maxRaDelayTime) := by
  have ready := NDStateRouter.ready_create mobilitySupport vars
  have slow : ∀ ie ∈ (NDStateRouter.create mobilitySupport vars).interfaces, ie.rtrVar.fastRA = false :=
    RtrAdHistory.off_create off
  refine ⟨fun es h runs => ?_, fun es h runs i t solicited late => ?_⟩
  · have admitted : Runs RtrAdHistory.step (fun h e => h.router.Admits e ∧ (False → h.router.Punctual e))
        (.start mobilitySupport vars) es h := runs.mono fun _ _ admits => ⟨admits, False.elim⟩
    refine ⟨fun i => ?_, fun rs ngbr delay outputs s' steps => ?_⟩
    · obtain ⟨_, labels, follows⟩ := RtrAdHistory.beacon_runs ready slow admitted i
      exact (Beacon.spaced_of_runs (follows.mono fun _ _ both => both.1)).apart
    · exact NDStateRouter.undelayed_iff (RtrAdHistory.beacon_runs ready slow admitted 0).1 slow steps
  · have punctual : Runs RtrAdHistory.step (fun h e => h.router.Admits e ∧ (True → h.router.Punctual e))
        (.start mobilitySupport vars) es h := runs.mono fun _ _ both => ⟨both.1, fun _ => both.2⟩
    obtain ⟨kept, labels, follows⟩ := RtrAdHistory.beacon_runs ready slow punctual i
    rw [kept.minDelay] at late ⊢
    exact Beacon.answered_of_runs (follows.mono fun _ _ both => ⟨both.1, both.2 trivial⟩) solicited late

def exampleVars : List RouterVariables := [⟨true, 600, 198, false, 0, 0⟩]

def exampleRtrSol : RtrSol := ⟨.unspecified, 0, ndHopLimit, 64, none⟩

/-- One solicitation a second after the first advertisement, and the next advertisement -/
theorem router_advertisements_solicited : ∃ es h, Runs RtrAdHistory.step
      (fun h e => h.router.Admits e ∧ h.router.Punctual e) (.start false exampleVars) es h ∧
    h.solsOn 0 = [1] ∧ h.router.now = 6 ∧ ∃ t' ∈ h.adsOn 0, 1 ≤ t' ∧ t' ≤ 1 + (3 + 1 / 2) := by
  have checked : (run (fun h e => Exec.assert (h.router.Admits e ∧ h.router.Punctual e) >>= fun _ => h.step e)
      (RtrAdHistory.start false exampleVars)
      [.dupAddrDetSuccess 0 .loopback 200, .wait 1, .processRtrSol exampleRtrSol none (1 / 2), .wait (7 / 2),
        .expire 0 200, .wait 6]).map (fun h => (h.solsOn 0, h.router.now, h.router.minDelayBetweenRas)) =
          .ok ([1], 6, 3) := by
    decide +kernel
  obtain ⟨h, runs, same⟩ := map_eq_ok checked
  obtain ⟨sols, same⟩ := Prod.mk.inj same
  obtain ⟨now, rate⟩ := Prod.mk.inj same
  have answered := (router_advertisements false exampleVars (by decide)).2 _ h (Runs.of_checked runs) 0 1
    (by rw [sols]; exact List.mem_singleton_self _)
    (by rw [now, rate]; unfold maxRaDelayTime; norm_num)
  rw [rate] at answered
  exact ⟨_, h, Runs.of_checked runs, sols, now, answered⟩

/-- A solicitation every second puts the advertisement off each time, and none of them is answered. -/
theorem router_advertisements_fails : ∃ es h s', Runs RtrAdHistory.step (fun h e => h.router.Admits e)
      (.start false exampleVars) es h ∧
    h.solsOn 0 = [1, 2, 3, 4, 5] ∧ h.adsOn 0 = [0] ∧
      1 + (h.router.minDelayBetweenRas + maxRaDelayTime) < h.router.now ∧
      h.router.step (.processRtrSol exampleRtrSol none (1 / 2)) = .ok ([], s') ∧ ¬ h.router.Undelayed s' := by
  let solicit : NDStateRouter.Event := .processRtrSol exampleRtrSol none (1 / 2)
  have checked : (run (fun h e => Exec.assert (h.router.Admits e) >>= fun _ => h.step e)
      (RtrAdHistory.start false exampleVars)
      [.dupAddrDetSuccess 0 .loopback 200, .wait 1, solicit, .wait 2, solicit, .wait 3, solicit, .wait 4, solicit,
        .wait 5, solicit, .wait 6]).map (fun h => decide ((h.solsOn 0 = [1, 2, 3, 4, 5] ∧ h.adsOn 0 = [0] ∧
          1 + (h.router.minDelayBetweenRas + maxRaDelayTime) < h.router.now) ∧
          h.router.timerOf 0 = some (5, 15 / 2) ∧ (h.router.step solicit).toOption.map
            (fun r => (r.1, r.2.timerOf 0)) = some ([], some (6, 17 / 2)))) = .ok true := by
    decide +kernel
  obtain ⟨h, runs, same⟩ := map_eq_ok checked
  obtain ⟨⟨sols, ads, late⟩, before, after⟩ := of_decide_eq_true same
  obtain ⟨⟨outputs, s'⟩, found, moved⟩ := Option.map_eq_some_iff.mp after
  obtain ⟨rfl, timer⟩ := Prod.mk.inj moved
  have steps : h.router.step solicit = .ok ([], s') := by
    cases result : h.router.step solicit with
    | error fault =>
        rw [result] at found
        cases found
    | ok r =>
        rw [result] at found
        cases found
        rfl
  refine ⟨_, h, s', Runs.of_checked runs, sols, ads, late, steps, fun undelayed => ?_⟩
  have kept := undelayed 0 _ before _ timer
  norm_num at kept

end IPv6Suite
