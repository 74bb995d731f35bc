import IPv6Suite.ExpiryEntryList
import IPv6Suite.Lib.Deadlines
import Mathlib.Data.Rat.Cast.Order
import Mathlib.Tactic.Linarith
import Mathlib.Tactic.NormNum

namespace IPv6Suite

open Lib

variable {α : Type}

/-- An expiry list, the lifetimes its entries have at present, and the clock. -/
structure ExpiryState (α : Type) where
  list : ExpiryEntryList α
  lifetime : α → BitVec 32
  now : SimTime

inductive ExpiryEvent (α : Type) where
  | addOrUpdate (p : α) (lifetime : BitVec 32)
  | remove (p : α)
  | fire
  | advance (t : SimTime)

def expiryOf (lifetime : α → BitVec 32) (p : α) : SimTime := (lifetime p).toNat

namespace ExpiryState

def start (now : SimTime) (lifetime : α → BitVec 32) : ExpiryState α :=
  ⟨ExpiryEntryList.create true, lifetime, now⟩

/-- Every entry of `queued` has at least the whole lifetime of some entry of `queued`
left. -/
def Spaced (now : SimTime) (lifetime : α → BitVec 32) (due : α → Option SimTime)
    (queued : List α) : Prop :=
  ∀ q ∈ queued, ∀ u, due q = some u → ∃ f ∈ queued, now + expiryOf lifetime f ≤ u

/-- The list and the deadlines agree on what is queued. -/
structure Queued (s : ExpiryState α) (d : Deadlines α SimTime) : Prop where
  clock : d.now = s.now
  nodup : s.list.entries.Nodup
  relative : s.list.relative = true
  due : ∀ p, p ∈ s.list.entries ↔ ∃ u, d.due p = some u
  bound : ∀ p u, d.due p = some u → u ≤ s.now + expiryOf s.lifetime p

/-- The timer is set to the earliest deadline, which is the front's. -/
structure OnTime (s : ExpiryState α) (d : Deadlines α SimTime) : Prop where
  queued : Queued s d
  isHeap : IsHeap (expiryOf s.lifetime) s.list.entries
  timer : ∀ front rest, s.list.entries = front :: rest →
    ∃ r, s.list.sig = some r ∧ s.now ≤ r ∧ d.due front = some r ∧
      ∀ q u, d.due q = some u → r ≤ u

theorem expiryOf_nonneg (lifetime : α → BitVec 32) (p : α) : 0 ≤ expiryOf lifetime p :=
  Nat.cast_nonneg _

theorem Spaced.congr {now : SimTime} {lifetime : α → BitVec 32} {due due' : α → Option SimTime}
    {l l' : List α} (perm : l.Perm l') (same : ∀ q ∈ l, due q = due' q) :
    Spaced now lifetime due l ↔ Spaced now lifetime due' l' := by
  constructor
  · intro spaced q inside u dueAt
    have inside' := perm.mem_iff.mpr inside
    obtain ⟨f, queued, before⟩ := spaced q inside' u (same q inside' ▸ dueAt)
    exact ⟨f, perm.mem_iff.mp queued, before⟩
  · intro spaced q inside u dueAt
    obtain ⟨f, queued, before⟩ := spaced q (perm.mem_iff.mp inside) u (same q inside ▸ dueAt)
    exact ⟨f, perm.mem_iff.mpr queued, before⟩

theorem Queued.onTime {s : ExpiryState α} {d : Deadlines α SimTime} (agree : Queued s d)
    (restarted : s.list.Restarted (expiryOf s.lifetime) s.now)
    (spaced : Spaced s.now s.lifetime d.due s.list.entries) : OnTime s d where
  queued := agree
  isHeap := restarted.isHeap
  timer front rest split := by
    have least := (split ▸ restarted.isHeap).front_le
    have earliest : ∀ q u, d.due q = some u → s.now + expiryOf s.lifetime front ≤ u := by
      intro q u dueAt
      obtain ⟨f, inside, before⟩ := spaced q ((agree.due q).mpr ⟨u, dueAt⟩) u dueAt
      have shorter := least f (split ▸ inside)
      linarith
    obtain ⟨u, dueAt⟩ := (agree.due front).mp (by simp [split])
    have meets : u = s.now + expiryOf s.lifetime front :=
      le_antisymm (agree.bound front u dueAt) (earliest front u dueAt)
    refine ⟨_, restarted.timer front rest split, ?_, meets ▸ dueAt, earliest⟩
    have nonneg := expiryOf_nonneg s.lifetime front
    linarith

/-- Otherwise it passes a deadline. -/
theorem late_of_not_spaced {s : ExpiryState α} {d : Deadlines α SimTime}
    (restarted : s.list.Restarted (expiryOf s.lifetime) s.now)
    (unspaced : ¬ Spaced s.now s.lifetime d.due s.list.entries) :
    ∃ r, s.list.sig = some r ∧ s.now ≤ r ∧ ∃ q u, d.due q = some u ∧ u < r := by
  unfold Spaced at unspaced
  push Not at unspaced
  obtain ⟨q, inside, u, dueAt, after⟩ := unspaced
  cases split : s.list.entries with
  | nil => simp [split] at inside
  | cons front rest =>
      refine ⟨_, restarted.timer front rest split, ?_, q, u, dueAt, after front (by simp [split])⟩
      have nonneg := expiryOf_nonneg s.lifetime front
      linarith

theorem start_onTime (now : SimTime) (lifetime : α → BitVec 32) :
    OnTime (start now lifetime) (Deadlines.start now) where
  queued := ⟨rfl, List.nodup_nil, rfl, fun p => by simp [start, ExpiryEntryList.create,
    Deadlines.start], fun p u none => by cases none⟩
  isHeap := fun c inside => absurd inside (Nat.not_lt_zero c)
  timer := fun front rest split => by cases split

section

variable [DecidableEq α]

/-- The callback is handed `expired`; the clock stops at the time the timer is set to. -/
def step (heap : StdHeap SimTime) (s : ExpiryState α) :
    ExpiryEvent α → Option (ExpiryState α × DeadlineLabel α SimTime)
  | .addOrUpdate p lifetime =>
      let lifetimes := Function.update s.lifetime p lifetime
      some ({ s with
          list := s.list.addOrUpdate heap (expiryOf lifetimes) s.now p
          lifetime := lifetimes },
        .queue p (s.now + lifetime.toNat))
  | .remove p =>
      some ({ s with list := s.list.remove heap (expiryOf s.lifetime) s.now p }, .drop p)
  | .fire =>
      if s.list.sig = some s.now then
        some ({ s with list := s.list.popExpired heap (expiryOf s.lifetime) s.now },
          match s.list.expired heap (expiryOf s.lifetime) with
          | some p => .expire p
          | none => .idle)
      else none
  | .advance t =>
      if s.now ≤ t ∧ s.list.sig.all (t ≤ ·) then some ({ s with now := t }, .advance t) else none

/-- Whatever stays queued when the event restarts the timer is spaced. -/
def RestartsSpaced (s : ExpiryState α) (d : Deadlines α SimTime) : ExpiryEvent α → Prop
  | .addOrUpdate p lifetime =>
      Spaced s.now (Function.update s.lifetime p lifetime)
        (Function.update d.due p (some (s.now + lifetime.toNat)))
        (p :: s.list.entries.filter (· ≠ p))
  | .remove p => p ∈ s.list.entries → Spaced s.now s.lifetime d.due (s.list.entries.erase p)
  | .fire => Spaced s.now s.lifetime d.due s.list.entries.tail
  | .advance _ => True

/-- A run and the log an observer keeps of it, with the deadlines the log implies. -/
inductive LoggedRun (heap : StdHeap SimTime)
    (ok : ExpiryState α → Deadlines α SimTime → ExpiryEvent α → Prop) :
    ExpiryState α → Deadlines α SimTime → List (DeadlineLabel α SimTime) →
      ExpiryState α → Deadlines α SimTime → Prop
  | nil (s : ExpiryState α) (d : Deadlines α SimTime) : LoggedRun heap ok s d [] s d
  | cons {s s' t : ExpiryState α} {d u : Deadlines α SimTime} {e : ExpiryEvent α}
      {label : DeadlineLabel α SimTime} {log : List (DeadlineLabel α SimTime)}
      (meets : ok s d e) (steps : s.step heap e = some (s', label))
      (runs : LoggedRun heap ok s' (d.after label) log t u) :
      LoggedRun heap ok s d (label :: log) t u

/-- The log of the events, when each can occur in turn. -/
def record (heap : StdHeap SimTime) :
    ExpiryState α → List (ExpiryEvent α) → Option (List (DeadlineLabel α SimTime))
  | _, [] => some []
  | s, e :: rest =>
      (s.step heap e).bind fun next => (record heap next.1 rest).map (next.2 :: ·)

/-- What a restart leaves: the list agrees with the deadlines, and its entries are
spaced exactly if the event's condition was met. -/
def RestartedBy (s : ExpiryState α) (d : Deadlines α SimTime) (e : ExpiryEvent α)
    (s' : ExpiryState α) (d' : Deadlines α SimTime) : Prop :=
  Queued s' d' ∧ s'.list.Restarted (expiryOf s'.lifetime) s'.now ∧
    (RestartsSpaced s d e ↔ Spaced s'.now s'.lifetime d'.due s'.list.entries)

variable {heap : StdHeap SimTime} {s s' : ExpiryState α} {d : Deadlines α SimTime}

theorem LoggedRun.of_record {events : List (ExpiryEvent α)}
    {log : List (DeadlineLabel α SimTime)} (d : Deadlines α SimTime) (recorded : s.record heap events = some log) :
    ∃ t u, LoggedRun heap (fun _ _ _ => True) s d log t u := by
  induction events generalizing s d log with
  | nil =>
      cases recorded
      exact ⟨s, d, .nil s d⟩
  | cons e rest ih =>
      obtain ⟨⟨s', label⟩, steps, tail⟩ := Option.bind_eq_some_iff.mp recorded
      obtain ⟨log', recorded', rfl⟩ := Option.map_eq_some_iff.mp tail
      obtain ⟨t, u, runs⟩ := ih (d.after label) recorded'
      exact ⟨t, u, .cons trivial steps runs⟩

theorem addOrUpdate_restarted (queued : Queued s d) (p : α) (lifetime : BitVec 32)
    (steps : s.step heap (.addOrUpdate p lifetime) = some (s', .queue p (s.now + lifetime.toNat))) :
    RestartedBy s d (.addOrUpdate p lifetime) s' (d.after (.queue p (s.now + lifetime.toNat))) := by
  simp only [step, Option.some.injEq, Prod.mk.injEq, and_true] at steps
  subst steps
  refine ⟨⟨queued.clock, ?_, queued.relative, fun q => ?_, fun q u dueAt => ?_⟩, ?_, ?_⟩
  · exact ExpiryEntryList.nodup_addOrUpdate queued.nodup
  · rw [ExpiryEntryList.mem_addOrUpdate, queued.due]
    by_cases same : q = p
    · subst same
      simp [Deadlines.after]
    · simp [Deadlines.after, same]
  · change Function.update d.due p _ q = some u at dueAt
    change u ≤ s.now + expiryOf (Function.update s.lifetime p lifetime) q
    by_cases same : q = p
    · subst same
      rw [Function.update_self, Option.some.injEq] at dueAt
      rw [← dueAt, expiryOf, Function.update_self]
    · rw [Function.update_of_ne same] at dueAt
      rw [expiryOf, Function.update_of_ne same]
      exact queued.bound q u dueAt
  · exact ExpiryEntryList.addOrUpdate_restarted _ _ _ p queued.relative
  · refine Spaced.congr ?_ fun q _ => rfl
    exact (List.perm_append_singleton p _).symm.trans ExpiryEntryList.addOrUpdate_perm.symm

theorem remove_restarted (queued : Queued s d) (p : α) (inside : p ∈ s.list.entries)
    (steps : s.step heap (.remove p) = some (s', .drop p)) :
    RestartedBy s d (.remove p) s' (d.after (.drop p)) := by
  simp only [step, Option.some.injEq, Prod.mk.injEq, and_true] at steps
  subst steps
  refine ⟨⟨queued.clock, ?_, ?_, fun q => ?_, fun q u dueAt => ?_⟩, ?_, ?_⟩
  · exact ExpiryEntryList.nodup_remove queued.nodup
  · exact (ExpiryEntryList.remove_restarted heap (expiryOf s.lifetime) s.now inside queued.relative).relative
  · rw [ExpiryEntryList.mem_remove queued.nodup, queued.due]
    by_cases same : q = p
    · subst same
      simp [Deadlines.after]
    · simp [Deadlines.after, same]
  · change Function.update d.due p _ q = some u at dueAt
    by_cases same : q = p
    · subst same
      rw [Function.update_self] at dueAt
      cases dueAt
    · rw [Function.update_of_ne same] at dueAt
      exact queued.bound q u dueAt
  · exact ExpiryEntryList.remove_restarted _ _ _ inside queued.relative
  · change (p ∈ s.list.entries → _) ↔ _
    rw [imp_iff_right inside]
    refine Spaced.congr ExpiryEntryList.remove_perm.symm fun q member => ?_
    exact (Function.update_of_ne (queued.nodup.mem_erase_iff.mp member).1 _ _).symm

theorem fire_restarted (onTime : OnTime s d) {front : α} {rest : List α} (split : s.list.entries = front :: rest)
    (perm : s'.list.entries.Perm rest) (restarted : s'.list.Restarted (expiryOf s.lifetime) s.now)
    (lifetimes : s'.lifetime = s.lifetime) (clock : s'.now = s.now) :
    RestartedBy s d .fire s' (d.after (.expire front)) := by
  have nodup : front ∉ rest ∧ rest.Nodup := List.nodup_cons.mp (split ▸ onTime.queued.nodup)
  refine ⟨⟨?_, ?_, restarted.relative, fun q => ?_, fun q u dueAt => ?_⟩, ?_, ?_⟩
  · exact onTime.queued.clock.trans clock.symm
  · exact perm.nodup_iff.mpr nodup.2
  · rw [perm.mem_iff]
    have before := onTime.queued.due q
    rw [split, List.mem_cons] at before
    by_cases same : q = front
    · subst same
      simp [Deadlines.after, nodup.1]
    · simpa [Deadlines.after, same] using before
  · change Function.update d.due front _ q = some u at dueAt
    by_cases same : q = front
    · subst same
      rw [Function.update_self] at dueAt
      cases dueAt
    · rw [Function.update_of_ne same] at dueAt
      rw [lifetimes, clock]
      exact onTime.queued.bound q u dueAt
  · rw [lifetimes, clock]
    exact restarted
  · change Spaced s.now s.lifetime d.due s.list.entries.tail ↔ _
    rw [lifetimes, clock, split]
    refine Spaced.congr perm.symm fun q member => ?_
    have apart : q ≠ front := by
      rintro rfl
      exact nodup.1 member
    exact (Function.update_of_ne apart _ _).symm

/-- What one step does: it is allowed, and it either restarts the timer or leaves it
set to the earliest deadline. -/
theorem step_spec (onTime : OnTime s d) {e : ExpiryEvent α} {label : DeadlineLabel α SimTime}
    (steps : s.step heap e = some (s', label)) : d.Allows label ∧ (RestartedBy s d e s' (d.after label) ∨
        OnTime s' (d.after label) ∧ RestartsSpaced s d e) := by
  cases e with
  | addOrUpdate p lifetime =>
      have named : label = .queue p (s.now + lifetime.toNat) := by
        simp only [step, Option.some.injEq, Prod.mk.injEq] at steps
        exact steps.2.symm
      subst named
      exact ⟨trivial, Or.inl (addOrUpdate_restarted onTime.queued p lifetime steps)⟩
  | remove p =>
      have named : label = .drop p := by
        simp only [step, Option.some.injEq, Prod.mk.injEq] at steps
        exact steps.2.symm
      subst named
      by_cases inside : p ∈ s.list.entries
      · exact ⟨trivial, Or.inl (remove_restarted onTime.queued p inside steps)⟩
      · refine ⟨trivial, Or.inr ⟨?_, fun member => absurd member inside⟩⟩
        simp only [step, ExpiryEntryList.remove_of_not_mem inside, Option.some.injEq,
          Prod.mk.injEq, and_true] at steps
        have absent : d.due p = none := by
          by_contra present
          exact inside ((onTime.queued.due p).mpr (Option.ne_none_iff_exists'.mp present))
        have unchanged : d.after (.drop p) = d := by
          simp only [Deadlines.after, ← absent, Function.update_eq_self]
        rw [unchanged, ← steps]
        exact onTime
  | fire =>
      simp only [step, Option.ite_none_right_eq_some, Option.some.injEq, Prod.mk.injEq] at steps
      obtain ⟨arrived, rfl, rfl⟩ := steps
      cases split : s.list.entries with
      | nil =>
          obtain ⟨none, popped⟩ :=
            ExpiryEntryList.popExpired_nil heap (expiryOf s.lifetime) s.now split
          rw [none, popped]
          obtain ⟨clock, nodup, relative, due, bound⟩ := onTime.queued
          refine ⟨trivial, Or.inr ⟨⟨⟨clock, nodup, relative, due, bound⟩, onTime.isHeap, ?_⟩, ?_⟩⟩
          · intro front rest nonempty
            rw [split] at nonempty
            cases nonempty
          · intro q member
            simp [split] at member
      | cons front rest =>
          obtain ⟨handed, perm, restarted⟩ := ExpiryEntryList.popExpired_cons heap s.now split
            onTime.isHeap onTime.queued.relative
          obtain ⟨r, set, -, dueAt, -⟩ := onTime.timer front rest split
          rw [handed]
          refine ⟨?_, Or.inl (fire_restarted onTime split perm restarted rfl rfl)⟩
          change d.due front = some d.now
          rw [dueAt, ← set, arrived, onTime.queued.clock]
  | advance t =>
      simp only [step, Option.ite_none_right_eq_some, Option.some.injEq, Prod.mk.injEq] at steps
      obtain ⟨⟨forward, before⟩, rfl, rfl⟩ := steps
      have reached : ∀ p u, d.due p = some u → t ≤ u := by
        intro p u dueAt
        cases split : s.list.entries with
        | nil => simpa [split] using (onTime.queued.due p).mpr ⟨u, dueAt⟩
        | cons front rest =>
            obtain ⟨r, set, -, -, earliest⟩ := onTime.timer front rest split
            rw [set, Option.all_some, decide_eq_true_eq] at before
            exact le_trans before (earliest p u dueAt)
      obtain ⟨clock, nodup, relative, due, bound⟩ := onTime.queued
      refine ⟨⟨clock ▸ forward, reached⟩, Or.inr ⟨⟨⟨rfl, nodup, relative, due, ?_⟩,
        onTime.isHeap, fun front rest split => ?_⟩, trivial⟩⟩
      · intro p u dueAt
        have earlier := bound p u dueAt
        change u ≤ t + expiryOf s.lifetime p
        linarith
      · obtain ⟨r, set, -, dueAt, earliest⟩ := onTime.timer front rest split
        exact ⟨r, set, reached front r dueAt, dueAt, earliest⟩

theorem LoggedRun.onTime {t : ExpiryState α} {u : Deadlines α SimTime}
    {log : List (DeadlineLabel α SimTime)} (runs : LoggedRun heap RestartsSpaced s d log t u)
    (onTime : OnTime s d) : d.Accepts log ∧ OnTime t u := by
  induction runs with
  | nil s d => exact ⟨trivial, onTime⟩
  | cons meets steps _ ih =>
      obtain ⟨allows, ⟨queued, restarted, spaced⟩ | ⟨onTime', -⟩⟩ := step_spec onTime steps
      · have rest := ih (queued.onTime restarted (spaced.mp meets))
        exact ⟨⟨allows, rest.1⟩, rest.2⟩
      · have rest := ih onTime'
        exact ⟨⟨allows, rest.1⟩, rest.2⟩

/-- Every entry is handed over exactly at its deadline in every run whose restarts
are spaced. A restart that is not makes the run late as soon as the timer is waited
for: the clock passes a deadline. -/
theorem expires_on_time_of_spaced (heap : StdHeap SimTime) (now : SimTime)
    (lifetime : α → BitVec 32) {t : ExpiryState α} {d : Deadlines α SimTime}
    {log : List (DeadlineLabel α SimTime)}
    (runs : LoggedRun heap RestartsSpaced (start now lifetime) (Deadlines.start now) log t d) :
    (Deadlines.start now).Accepts log ∧
      ∀ e t' label, t.step heap e = some (t', label) → ¬ RestartsSpaced t d e →
        ∃ r t'', t'.step heap (.advance r) = some (t'', .advance r) ∧
          ¬ (d.after label).Allows (.advance r) := by
  obtain ⟨accepts, onTime⟩ := runs.onTime (start_onTime now lifetime)
  refine ⟨accepts, fun e t' label steps unspaced => ?_⟩
  obtain ⟨-, ⟨-, restarted, spaced⟩ | ⟨-, spaced⟩⟩ := step_spec onTime steps
  · obtain ⟨r, set, forward, q, u, dueAt, passed⟩ := late_of_not_spaced restarted (mt spaced.mpr unspaced)
    refine ⟨r, { t' with now := r }, ?_, fun allows => ?_⟩
    · simp [step, set, forward]
    · exact absurd (allows.2 q u dueAt) (not_le.mpr passed)
  · exact absurd spaced unspaced

end

theorem lone_entry_expires_on_time :
    (Deadlines.start (0 : SimTime)).Accepts [.queue (0 : ℕ) 10, .advance 10, .expire 0] := by
  let lifetimes : ℕ → BitVec 32 := Function.update (fun _ => 0) 0 10
  have sum : (0 : SimTime) + expiryOf lifetimes 0 = 10 := by decide +kernel
  have queued : (start 0 fun _ => 0).step StdHeap.sorted (.addOrUpdate 0 10) =
      some (⟨⟨[0], some 10, true⟩, lifetimes, 0⟩, .queue 0 10) := by
    have raw : (start 0 fun _ => 0).step StdHeap.sorted (.addOrUpdate 0 10) =
        some (⟨⟨[0], some (0 + expiryOf lifetimes 0), true⟩, lifetimes, 0⟩,
          .queue 0 (0 + expiryOf lifetimes 0)) := rfl
    rwa [sum] at raw
  have spaced : RestartsSpaced (start 0 fun _ => 0) (Deadlines.start 0)
      (.addOrUpdate (0 : ℕ) 10) := by
    intro q inside u dueAt
    cases List.mem_singleton.mp inside
    exact ⟨0, inside, le_of_eq (Option.some.inj dueAt)⟩
  have idle : RestartsSpaced ⟨⟨[0], some 10, true⟩, lifetimes, 10⟩
      (((Deadlines.start 0).after (.queue 0 10)).after (.advance 10)) .fire :=
    fun q inside => absurd inside List.not_mem_nil
  exact (expires_on_time_of_spaced StdHeap.sorted 0 (fun _ => 0)
    (.cons spaced queued
      (.cons (e := .advance 10) trivial rfl (.cons (e := .fire) idle rfl (.nil _ _))))).1

/-- An entry of 10 s is queued at 0 and one of 20 s at 5: the first is handed over at 15. -/
theorem second_entry_postpones_first :
    ∃ log t u, LoggedRun StdHeap.sorted (fun _ _ _ => True)
        (start 0 fun _ : ℕ => 0) (Deadlines.start 0) log t u ∧
      log = [.queue 0 10, .advance 5, .queue 1 25, .advance 15, .expire 0] ∧
      ¬ (Deadlines.start 0).Accepts log := by
  have recorded : (start 0 fun _ : ℕ => 0).record StdHeap.sorted
      [.addOrUpdate 0 10, .advance 5, .addOrUpdate 1 20, .advance 15, .fire] =
        some [.queue 0 10, .advance 5, .queue 1 25, .advance 15, .expire 0] := by
    decide +kernel
  obtain ⟨t, u, runs⟩ := LoggedRun.of_record (Deadlines.start 0) recorded
  refine ⟨_, t, u, runs, rfl, fun accepts => ?_⟩
  have passed : (15 : SimTime) ≤ 10 := accepts.2.2.2.1.2 0 10 rfl
  norm_num at passed

end ExpiryState

end IPv6Suite
