import IPv6Suite.Lib.Machine
import IPv6Suite.IPv6CDS
import Mathlib.Data.List.Induction

namespace IPv6Suite

open Lib

/-- The calls that change the router list, the neighbour cache or the destination
cache; `RoutingTable6::routerTimeout` is a `removeRouterEntry`. -/
inductive CDSOp where
  | insertRouterEntry (re : RouterEntry) (setDefault : Bool)
  | removeRouterEntry (addr : Ipv6Addr)
  | insertNeighbourEntry (entry : NeighbourEntry)
  | removeNeighbourEntry (addr : Ipv6Addr)
  | removeDestinationEntry (addr : Ipv6Addr)

namespace CDSOp

def exec (cds : IPv6CDS) : CDSOp → Exec IPv6CDS
  | insertRouterEntry re setDefault => (·.2) <$> cds.insertRouterEntry re setDefault
  | removeRouterEntry addr => .ok (cds.removeRouterEntry addr)
  | insertNeighbourEntry entry => .ok (cds.insertNeighbourEntry entry)
  | removeNeighbourEntry addr => cds.removeNeighbourEntry addr
  | removeDestinationEntry addr => .ok (cds.removeDestinationEntry addr)

/-- The caller's guard: a router is inserted only where `router(addr)` is null. -/
def guarded (cds : IPv6CDS) : CDSOp → Bool
  | insertRouterEntry re _ => (cds.router re.unicastAddr).isNone
  | _ => true

/-- The address the call gives a router's destination entry. -/
def insertsRouter : CDSOp → Option Ipv6Addr
  | insertRouterEntry re _ => some re.unicastAddr
  | _ => none

/-- The address the call passes to `IPv6CDS::removeNeighbourEntry`. -/
def clears : CDSOp → Option Ipv6Addr
  | insertRouterEntry re _ => some re.unicastAddr
  | removeNeighbourEntry addr => some addr
  | _ => none

/-- The address for which the call leaves both caches with an entry or without. -/
def settles : CDSOp → Option Ipv6Addr
  | insertNeighbourEntry entry => some entry.unicastAddr
  | removeDestinationEntry addr => some addr
  | _ => none

end CDSOp

namespace IPv6CDS

/-- The destination entry of a host that the neighbour cache does not know. -/
def Orphan (cds : IPv6CDS) (a : Ipv6Addr) : Prop :=
  IPv6Address.host a ∈ cds.destCache ∧ a ∉ cds.neighbourCache

/-- Every neighbour has its destination entry. -/
def NeighboursListed (cds : IPv6CDS) : Prop :=
  ∀ a ∈ cds.neighbourCache, IPv6Address.host a ∈ cds.destCache

variable {cds : IPv6CDS} {a : Ipv6Addr}

theorem removeNeighbourEntry_of_not_mem
    (absent : IPv6Address.host a ∉ cds.destCache) : cds.removeNeighbourEntry a = .ok cds := by
  simp [removeNeighbourEntry, removeDestEntry, findDestEntry, Std.TreeMap.getElem?_eq_none absent]

theorem removeNeighbourEntry_of_mem (present : IPv6Address.host a ∈ cds.destCache) :
    cds.removeNeighbourEntry a =
      if a ∈ cds.neighbourCache then
        .ok { cds with
          destCache := cds.destCache.erase (IPv6Address.host a)
          neighbourCache := cds.neighbourCache.erase a }
      else .error .assertFailed := by
  have found := Std.TreeMap.getElem?_eq_some_getElem present
  simp only [removeNeighbourEntry, removeDestEntry, findDestEntry, found, eraseNeighbour]
  split
  · rename_i stored
    rw [assert_pos stored]
    rfl
  · rename_i missing
    rw [assert_neg missing]
    rfl

theorem removeNeighbourEntry_eq_ok {cds cds' : IPv6CDS}
    (listed : cds.NeighboursListed) (removed : cds.removeNeighbourEntry a = .ok cds') : ¬ cds.Orphan a ∧
      (∀ b, IPv6Address.host b ∈ cds'.destCache ↔ a ≠ b ∧ IPv6Address.host b ∈ cds.destCache) ∧
      (∀ b, b ∈ cds'.neighbourCache ↔ a ≠ b ∧ b ∈ cds.neighbourCache) := by
  by_cases present : IPv6Address.host a ∈ cds.destCache
  · rw [removeNeighbourEntry_of_mem present] at removed
    split at removed
    · rename_i stored
      cases removed
      refine ⟨fun orphan => orphan.2 stored, fun b => ?_, fun b => StdMap.mem_erase⟩
      rw [StdMap.mem_erase, ne_eq, IPv6Address.host_inj]
    · cases removed
  · rw [removeNeighbourEntry_of_not_mem present] at removed
    cases removed
    refine ⟨fun orphan => present orphan.1, fun b => ?_, fun b => ?_⟩
    · refine ⟨fun inside => ⟨?_, inside⟩, And.right⟩
      rintro rfl
      exact present inside
    · refine ⟨fun inside => ⟨?_, inside⟩, And.right⟩
      rintro rfl
      exact present (listed _ inside)

theorem removeNeighbourEntry_total (settled : ¬ cds.Orphan a) : ∃ cds', cds.removeNeighbourEntry a = .ok cds' := by
  by_cases present : IPv6Address.host a ∈ cds.destCache
  · have stored : a ∈ cds.neighbourCache := by
      by_contra missing
      exact settled ⟨present, missing⟩
    rw [removeNeighbourEntry_of_mem present, if_pos stored]
    exact ⟨_, rfl⟩
  · exact ⟨cds, removeNeighbourEntry_of_not_mem present⟩

theorem insertRouterEntry_eq (cds : IPv6CDS) (re : RouterEntry) (setDefault : Bool) :
    cds.insertRouterEntry re setDefault =
      ((cds.pushRouterEntry re setDefault).2.removeNeighbourEntry re.unicastAddr).map fun c =>
        (cds.next, c.setDestEntry re.unicastAddr { neighbour := some cds.next }) := by
  unfold insertRouterEntry pushRouterEntry
  dsimp only
  cases removeNeighbourEntry _ re.unicastAddr <;> rfl

theorem removeDestinationEntry_mem (cds : IPv6CDS) (listed : cds.NeighboursListed) (a : Ipv6Addr) :
    (∀ b, IPv6Address.host b ∈ (cds.removeDestinationEntry a).destCache ↔
        a ≠ b ∧ IPv6Address.host b ∈ cds.destCache) ∧ (∀ b, b ∈ (cds.removeDestinationEntry a).neighbourCache ↔
        a ≠ b ∧ b ∈ cds.neighbourCache) := by
  unfold removeDestinationEntry removeDestEntry
  by_cases present : IPv6Address.host a ∈ cds.destCache
  · have found := Std.TreeMap.getElem?_eq_some_getElem present
    simp only [findDestEntry, found]
    refine ⟨fun b => ?_, fun b => StdMap.mem_erase⟩
    change _ ∈ cds.destCache.erase _ ↔ _
    rw [StdMap.mem_erase, ne_eq, IPv6Address.host_inj]
  · have missing := Std.TreeMap.getElem?_eq_none present
    simp only [findDestEntry, missing]
    refine ⟨fun b => ?_, fun b => ?_⟩
    · refine ⟨fun inside => ⟨?_, inside⟩, And.right⟩
      rintro rfl
      exact present inside
    · refine ⟨fun inside => ⟨?_, inside⟩, And.right⟩
      rintro rfl
      exact present (listed _ inside)

end IPv6CDS

namespace CDSOp

open IPv6CDS

theorem exec_eq_ok {cds cds' : IPv6CDS} (op : CDSOp) (listed : cds.NeighboursListed)
    (done : op.exec cds = .ok cds') : cds'.NeighboursListed ∧ (∀ b, op.clears = some b → ¬ cds.Orphan b) ∧
      ∀ b, cds'.Orphan b ↔ op.insertsRouter = some b ∨ cds.Orphan b ∧ op.settles ≠ some b := by
  cases op with
  | insertRouterEntry re setDefault =>
      simp only [exec, insertRouterEntry_eq] at done
      cases removed : (cds.pushRouterEntry re setDefault).2.removeNeighbourEntry re.unicastAddr with
      | error fault =>
          rw [removed] at done
          cases done
      | ok middle =>
          have pushed : (cds.pushRouterEntry re setDefault).2.NeighboursListed := listed
          obtain ⟨settled, dest, ngbr⟩ := removeNeighbourEntry_eq_ok pushed removed
          change ∀ b, _ ↔ _ ∧ IPv6Address.host b ∈ cds.destCache at dest
          change ∀ b, _ ↔ _ ∧ b ∈ cds.neighbourCache at ngbr
          rw [removed] at done
          injection done with same
          subst same
          refine ⟨fun b inside => ?_, fun b same => ?_, fun b => ?_⟩
          · have kept := (ngbr b).mp inside
            exact StdMap.mem_insert.mpr (Or.inr ((dest b).mpr ⟨kept.1, listed b kept.2⟩))
          · cases same
            exact settled
          · change (_ ∈ middle.destCache.insert _ _ ∧ _ ∉ middle.neighbourCache) ↔ _
            rw [StdMap.mem_insert, IPv6Address.host_inj, dest, ngbr]
            simp only [insertsRouter, settles, Option.some.injEq, Orphan]
            by_cases same : re.unicastAddr = b
            · simp [same]
            · simp only [same, ne_eq, not_false_eq_true, true_and, false_or, reduceCtorEq, and_true]
  | removeRouterEntry a =>
      cases done
      refine ⟨listed, by simp [clears], fun b => ?_⟩
      simp only [insertsRouter, settles, reduceCtorEq, false_or, ne_eq, not_false_eq_true, and_true]
      rfl
  | insertNeighbourEntry entry =>
      cases done
      refine ⟨fun b inside => ?_, by simp [clears], fun b => ?_⟩
      · rcases StdMap.mem_insert.mp inside with same | old
        · exact StdMap.mem_insert.mpr (Or.inl (congrArg IPv6Address.host same))
        · exact StdMap.mem_insert.mpr (Or.inr (listed b old))
      · change (_ ∈ cds.destCache.insert _ _ ∧ _ ∉ cds.neighbourCache.insert _ _) ↔ _
        rw [StdMap.mem_insert, StdMap.mem_insert, IPv6Address.host_inj]
        simp only [insertsRouter, settles, Orphan, reduceCtorEq, false_or]
        by_cases same : entry.unicastAddr = b
        · simp [same]
        · simp [same]
  | removeNeighbourEntry a =>
      obtain ⟨settled, dest, ngbr⟩ := removeNeighbourEntry_eq_ok listed done
      refine ⟨fun b inside => ?_, fun b same => ?_, fun b => ?_⟩
      · have kept := (ngbr b).mp inside
        exact (dest b).mpr ⟨kept.1, listed b kept.2⟩
      · cases same
        exact settled
      · simp only [Orphan, dest, ngbr, insertsRouter, settles]
        by_cases same : a = b
        · subst same
          simp only [Orphan] at settled
          simp [settled]
        · simp [same]
  | removeDestinationEntry a =>
      cases done
      obtain ⟨dest, ngbr⟩ := removeDestinationEntry_mem cds listed a
      refine ⟨fun b inside => ?_, by simp [clears], fun b => ?_⟩
      · have kept := (ngbr b).mp inside
        exact (dest b).mpr ⟨kept.1, listed b kept.2⟩
      · simp only [Orphan, dest, ngbr, insertsRouter, settles]
        by_cases same : a = b
        · simp [same]
        · simp [same]

theorem exec_total {cds : IPv6CDS} (op : CDSOp)
    (settled : ∀ b, op.clears = some b → ¬ cds.Orphan b) : ∃ cds', op.exec cds = .ok cds' := by
  cases op with
  | insertRouterEntry re setDefault =>
      have free : ¬ (cds.pushRouterEntry re setDefault).2.Orphan re.unicastAddr :=
        settled re.unicastAddr rfl
      obtain ⟨middle, removed⟩ := removeNeighbourEntry_total free
      simp only [exec, insertRouterEntry_eq, removed]
      exact ⟨_, rfl⟩
  | removeNeighbourEntry a => exact removeNeighbourEntry_total (settled a rfl)
  | removeRouterEntry a => exact ⟨_, rfl⟩
  | insertNeighbourEntry entry => exact ⟨_, rfl⟩
  | removeDestinationEntry a => exact ⟨_, rfl⟩

/-- A router was inserted for `a` and nothing settled `a` since. -/
def LeftOrphan (ops : List CDSOp) (a : Ipv6Addr) : Prop :=
  ∃ front first middle, ops = front ++ first :: middle ∧ first.insertsRouter = some a ∧
    ∀ op ∈ middle, op.settles ≠ some a

/-- Between an insertion of a router and the next call that clears its address, some
call settles the address. -/
def SettledBetween (ops : List CDSOp) : Prop :=
  ∀ a front first middle last back, ops = front ++ first :: middle ++ last :: back →
    first.insertsRouter = some a → last.clears = some a →
    ∃ op ∈ middle, op.settles = some a

variable {ops : List CDSOp}

theorem leftOrphan_snoc {op : CDSOp} {a : Ipv6Addr} : LeftOrphan (ops ++ [op]) a ↔
      op.insertsRouter = some a ∨ LeftOrphan ops a ∧ op.settles ≠ some a := by
  constructor
  · rintro ⟨front, first, middle, split, inserts, unsettled⟩
    rcases List.eq_nil_or_concat middle with rfl | ⟨init, last, rfl⟩
    · obtain ⟨-, same⟩ := List.append_inj' split rfl
      injection same with same
      exact Or.inl (same ▸ inserts)
    · rw [List.concat_eq_append, ← List.cons_append, ← List.append_assoc] at split
      obtain ⟨same, tail⟩ := List.append_inj' split rfl
      injection tail with tail
      subst tail
      refine Or.inr ⟨⟨front, first, init, same, inserts, fun op inside => ?_⟩, ?_⟩
      · exact unsettled op (by simp [inside])
      · exact unsettled _ (by simp)
  · rintro (inserts | ⟨⟨front, first, middle, rfl, inserts, unsettled⟩, open_⟩)
    · exact ⟨ops, op, [], rfl, inserts, by simp⟩
    · refine ⟨front, first, middle ++ [op], by simp, inserts, fun other inside => ?_⟩
      rcases List.mem_append.mp inside with old | new
      · exact unsettled other old
      · rw [List.mem_singleton.mp new]
        exact open_

theorem settledBetween_snoc {op : CDSOp} : SettledBetween (ops ++ [op]) ↔
      SettledBetween ops ∧ ∀ a, op.clears = some a → ¬ LeftOrphan ops a := by
  constructor
  · refine fun settled => ⟨fun a front first middle last back split inserts clear => ?_, ?_⟩
    · exact settled a front first middle last (back ++ [op]) (by simp [split]) inserts clear
    · rintro a clear ⟨front, first, middle, rfl, inserts, unsettled⟩
      obtain ⟨other, inside, settles⟩ :=
        settled a front first middle op [] (by simp) inserts clear
      exact unsettled other inside settles
  · rintro ⟨settled, closed⟩ a front first middle last back split inserts clear
    rcases List.eq_nil_or_concat back with rfl | ⟨init, final, rfl⟩
    · obtain ⟨same, tail⟩ := List.append_inj' split rfl
      injection tail with tail
      subst tail
      by_contra none
      push Not at none
      exact closed a clear ⟨front, first, middle, same, inserts, none⟩
    · rw [List.concat_eq_append, ← List.cons_append, ← List.append_assoc] at split
      exact settled a front first middle last init (List.append_inj' split rfl).1 inserts clear

theorem run_snoc (ops : List CDSOp) (op : CDSOp) :
    run exec .empty (ops ++ [op]) = run exec .empty ops >>= fun cds => op.exec cds := by
  rw [run_append]
  cases run exec .empty ops with
  | error fault => rfl
  | ok cds =>
      rw [ok_bind, ok_bind, run_cons]
      cases op.exec cds <;> rfl

theorem run_eq_ok {cds : IPv6CDS} (ran : run exec .empty ops = .ok cds) :
    cds.NeighboursListed ∧ SettledBetween ops ∧ ∀ a, cds.Orphan a ↔ LeftOrphan ops a := by
  induction ops using List.reverseRecOn generalizing cds with
  | nil =>
      cases ran
      refine ⟨fun a inside => ?_, fun a front first middle last back split => ?_, fun a => ?_⟩
      · exact absurd inside Std.TreeMap.not_mem_emptyc
      · simp at split
      · refine ⟨fun orphan => absurd orphan.1 Std.TreeMap.not_mem_emptyc, ?_⟩
        rintro ⟨front, first, middle, split, -⟩
        simp at split
  | append_singleton ops op ih =>
      rw [run_snoc, bind_eq_ok] at ran
      obtain ⟨middle, before, last⟩ := ran
      obtain ⟨listed, settled, orphans⟩ := ih before
      obtain ⟨listed', free, orphans'⟩ := exec_eq_ok op listed last
      refine ⟨listed', settledBetween_snoc.mpr ⟨settled, fun a clear => ?_⟩, fun a => ?_⟩
      · rw [← orphans]
        exact free a clear
      · rw [orphans', orphans, leftOrphan_snoc]

theorem run_total (settled : SettledBetween ops) : ∃ cds, run exec .empty ops = .ok cds := by
  induction ops using List.reverseRecOn with
  | nil => exact ⟨.empty, rfl⟩
  | append_singleton ops op ih =>
      obtain ⟨earlier, closed⟩ := settledBetween_snoc.mp settled
      obtain ⟨cds, before⟩ := ih earlier
      obtain ⟨-, -, orphans⟩ := run_eq_ok before
      rw [run_snoc, before, ok_bind]
      exact exec_total op fun a clear => mt (orphans a).mp (closed a clear)

/-- From empty caches the assertion of `INeighbourCache::removeNeighbourEntry` holds
throughout exactly when no router is inserted or neighbour removed at an address
whose last router insertion is still unsettled. -/
theorem erase_assertion_holds_iff (ops : List CDSOp) :
    (∃ cds, run exec .empty ops = .ok cds) ↔ SettledBetween ops :=
  ⟨fun ⟨_, ran⟩ => (run_eq_ok ran).2.1, run_total⟩

/-- Whether every call of the run meets its caller's guard. -/
def guardedRun (cds : IPv6CDS) : List CDSOp → Bool
  | [] => true
  | op :: rest =>
      op.guarded cds && match op.exec cds with
        | .ok next => guardedRun next rest
        | .error _ => true

/-- A router times out and is advertised again: guarded at every call, and the
second insertion fails the assertion. -/
theorem readvertised_router_fails :
    let router := RouterEntry.create ⟨0xFE800000, 0, 0, 1⟩ 0 none 1800
    let ops := [insertRouterEntry router false, removeRouterEntry router.unicastAddr,
      insertRouterEntry router false]
    guardedRun .empty ops = true ∧ run exec .empty ops = .error .assertFailed :=
  ⟨by decide, rfl⟩

end CDSOp

end IPv6Suite
