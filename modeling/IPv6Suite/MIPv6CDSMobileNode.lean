import IPv6Suite.MIPv6MNEntry

namespace IPv6Suite

open Lib

abbrev BindingUpdateList := List BuEntry

namespace BindingUpdateList

def findBU (bul : BindingUpdateList) (destAddr : Ipv6Addr) : Option BuEntry :=
  bul.find? fun bue => bue.addr = destAddr

/-- What is assigned through the pointer that `findBU` returned. -/
def modifyBU (destAddr : Ipv6Addr) (f : BuEntry → BuEntry) : BindingUpdateList → BindingUpdateList
  | [] => []
  | bue :: bul => if bue.addr = destAddr then f bue :: bul else bue :: modifyBU destAddr f bul

def addBU (bul : BindingUpdateList) (bu : BuEntry) : Exec BindingUpdateList := do
  Exec.assert (bul.findBU bu.addr = none)
  return bul ++ [bu]

def removeBU (bul : BindingUpdateList) (addr : Ipv6Addr) : BindingUpdateList :=
  bul.eraseP fun bue => bue.addr = addr

def expire (interval : BitVec 32) (bue : BuEntry) : Option BuEntry :=
  if bue.expires.setWidth 32 > interval then
    some (bue.setExpires (bue.expires.setWidth 32 - interval))
  else none

/-- One tick of `interval` seconds -/
def expireLifetimes (bul : BindingUpdateList) (interval : BitVec 32) : BindingUpdateList :=
  bul.filterMap (expire interval)

/-- No two entries have the same destination. -/
def Distinct (bul : BindingUpdateList) : Prop := (bul.map (·.addr)).Nodup

variable {bul bul' : BindingUpdateList} {dest other : Ipv6Addr} {bue bu : BuEntry}
  {f : BuEntry → BuEntry} {interval : BitVec 32}

@[simp] theorem findBU_nil : findBU [] dest = none := rfl

theorem findBU_cons_pos (same : bue.addr = dest) : findBU (bue :: bul) dest = some bue :=
  List.find?_cons_of_pos (decide_eq_true same)

theorem findBU_cons_neg (differs : bue.addr ≠ dest) : findBU (bue :: bul) dest = findBU bul dest :=
  List.find?_cons_of_neg (by rwa [decide_eq_true_eq])

theorem findBU_addr (found : bul.findBU dest = some bue) : bue.addr = dest :=
  of_decide_eq_true (List.find?_some (p := fun bue : BuEntry => decide (bue.addr = dest)) found)

theorem findBU_eq_none : bul.findBU dest = none ↔ dest ∉ bul.map (·.addr) := by
  unfold findBU
  simp only [List.find?_eq_none, decide_eq_true_eq, List.mem_map, not_exists, not_and]

theorem mem_of_findBU (found : bul.findBU dest = some bue) : bue ∈ bul := List.mem_of_find?_eq_some found

section Modify

variable (keeps : ∀ bue : BuEntry, bue.addr = dest → (f bue).addr = dest)

include keeps

theorem modifyBU_addrs : (bul.modifyBU dest f).map (·.addr) = bul.map (·.addr) := by
  induction bul with
  | nil => rfl
  | cons bue rest ih =>
      unfold modifyBU
      split
      · rename_i same
        rw [List.map_cons, List.map_cons, keeps bue same, same]
      · rw [List.map_cons, List.map_cons, ih]

theorem findBU_modifyBU_same : (bul.modifyBU dest f).findBU dest = (bul.findBU dest).map f := by
  induction bul with
  | nil => rfl
  | cons bue rest ih =>
      unfold modifyBU
      split
      · rename_i same
        rw [findBU_cons_pos (keeps bue same), findBU_cons_pos same, Option.map_some]
      · rename_i differs
        rw [findBU_cons_neg differs, findBU_cons_neg differs, ih]

theorem findBU_modifyBU_ne (differs : dest ≠ other) : (bul.modifyBU dest f).findBU other = bul.findBU other := by
  induction bul with
  | nil => rfl
  | cons bue rest ih =>
      unfold modifyBU
      split
      · rename_i same
        rw [findBU_cons_neg (by rwa [keeps bue same]), findBU_cons_neg (by rwa [same])]
      · by_cases at_other : bue.addr = other
        · rw [findBU_cons_pos at_other, findBU_cons_pos at_other]
        · rw [findBU_cons_neg at_other, findBU_cons_neg at_other, ih]

theorem findBU_modifyBU :
    (bul.modifyBU dest f).findBU other =
      if dest = other then (bul.findBU dest).map f else bul.findBU other := by
  split
  · rename_i same
    subst same
    exact findBU_modifyBU_same keeps
  · rename_i differs
    exact findBU_modifyBU_ne keeps differs

theorem Distinct.modifyBU (distinct : bul.Distinct) : (bul.modifyBU dest f).Distinct := by
  unfold Distinct
  rw [modifyBU_addrs keeps]
  exact distinct

end Modify

theorem addBU_eq_ok : addBU bul bu = .ok bul' ↔ bul.findBU bu.addr = none ∧ bul' = bul ++ [bu] := by
  unfold addBU
  rw [bind_eq_ok]
  simp only [assert_eq_ok, pure_eq_ok, Except.ok.injEq, exists_const, @eq_comm _ _ bul']

theorem findBU_append : (bul ++ [bu]).findBU dest =
    (bul.findBU dest).or (if bu.addr = dest then some bu else none) := by
  have last : findBU [bu] dest = if bu.addr = dest then some bu else none := by
    split
    · rename_i same
      exact findBU_cons_pos same
    · rename_i differs
      exact findBU_cons_neg differs
  rw [← last]
  exact List.find?_append

theorem Distinct.append (distinct : bul.Distinct) (absent : bul.findBU bu.addr = none) :
    (bul ++ [bu]).Distinct := by
  unfold Distinct
  rw [List.map_append, List.nodup_append]
  refine ⟨distinct, List.nodup_singleton _, ?_⟩
  intro first before second at_end same
  rw [List.map_singleton, List.mem_singleton] at at_end
  rw [same, at_end] at before
  exact findBU_eq_none.mp absent before

theorem removeBU_cons_pos (same : bue.addr = dest) : removeBU (bue :: bul) dest = bul :=
  List.eraseP_cons_of_pos (decide_eq_true same)

theorem removeBU_cons_neg (differs : bue.addr ≠ dest) : removeBU (bue :: bul) dest = bue :: removeBU bul dest :=
  List.eraseP_cons_of_neg (by rwa [decide_eq_true_eq])

theorem findBU_removeBU_ne (differs : dest ≠ other) : (bul.removeBU dest).findBU other = bul.findBU other := by
  induction bul with
  | nil => rfl
  | cons bue rest ih =>
      by_cases same : bue.addr = dest
      · rw [removeBU_cons_pos same, findBU_cons_neg (by rwa [same])]
      · rw [removeBU_cons_neg same]
        by_cases at_other : bue.addr = other
        · rw [findBU_cons_pos at_other, findBU_cons_pos at_other]
        · rw [findBU_cons_neg at_other, findBU_cons_neg at_other, ih]

theorem Distinct.findBU_removeBU_same (distinct : bul.Distinct) : (bul.removeBU dest).findBU dest = none := by
  induction bul with
  | nil => rfl
  | cons bue rest ih =>
      obtain ⟨absent, later⟩ := List.nodup_cons.mp distinct
      by_cases same : bue.addr = dest
      · rw [removeBU_cons_pos same, findBU_eq_none, ← same]
        exact absent
      · rw [removeBU_cons_neg same, findBU_cons_neg same]
        exact ih later

theorem Distinct.findBU_removeBU (distinct : bul.Distinct) :
    (bul.removeBU dest).findBU other = if dest = other then none else bul.findBU other := by
  split
  · rename_i same
    subst same
    exact distinct.findBU_removeBU_same
  · rename_i differs
    exact findBU_removeBU_ne differs

theorem Distinct.removeBU (distinct : bul.Distinct) : (bul.removeBU dest).Distinct :=
  List.Nodup.sublist (List.Sublist.map _ List.eraseP_sublist) distinct

theorem expire_addr (kept : expire interval bue = some bu) : bu.addr = bue.addr := by
  unfold expire at kept
  split at kept
  · cases kept
    rfl
  · cases kept

theorem Distinct.findBU_expireLifetimes (distinct : bul.Distinct) :
    (bul.expireLifetimes interval).findBU dest = (bul.findBU dest).bind (expire interval) := by
  induction bul with
  | nil => rfl
  | cons bue rest ih =>
      obtain ⟨absent, later⟩ := List.nodup_cons.mp distinct
      specialize ih later
      unfold expireLifetimes at ih ⊢
      rw [List.filterMap_cons]
      split
      · rename_i expired
        by_cases same : bue.addr = dest
        · rw [ih, findBU_cons_pos same, Option.bind_some, expired,
            findBU_eq_none.mpr (same ▸ absent), Option.bind_none]
        · rw [findBU_cons_neg same, ih]
      · rename_i kept left
        by_cases same : bue.addr = dest
        · rw [findBU_cons_pos same, findBU_cons_pos ((expire_addr left).trans same),
            Option.bind_some, left]
        · rw [findBU_cons_neg same, findBU_cons_neg (by rwa [expire_addr left]), ih]

theorem Distinct.expireLifetimes (distinct : bul.Distinct) : (bul.expireLifetimes interval).Distinct := by
  induction bul with
  | nil => exact List.nodup_nil
  | cons bue rest ih =>
      obtain ⟨absent, later⟩ := List.nodup_cons.mp distinct
      unfold BindingUpdateList.expireLifetimes
      rw [List.filterMap_cons]
      split
      · exact ih later
      · rename_i kept left
        apply List.nodup_cons.mpr
        refine ⟨?_, ih later⟩
        intro member
        obtain ⟨entry, among, same⟩ := List.mem_map.mp member
        obtain ⟨source, before, expired⟩ := List.mem_filterMap.mp among
        apply absent
        change bue.addr ∈ rest.map (·.addr)
        rw [← (expire_addr expired).symm.trans (same.trans (expire_addr left))]
        exact List.mem_map_of_mem before

end BindingUpdateList

end IPv6Suite
