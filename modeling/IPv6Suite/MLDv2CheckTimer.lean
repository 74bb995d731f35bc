import IPv6Suite.ListenerTable
import IPv6Suite.RecordCounters

namespace IPv6Suite

open Lib RecordType

/-- A router in `MLDv2CheckTimer`, with the groups that were visited. The records of a list have different
addresses, and a pointer to one is its address; `tempSAR` and `bSAdelete` are kept from one group to the next. -/
structure TimerCheck where
  lsTable : MLDv2Record
  massqTable : Option MLDv2Record
  tempSAR : Option Ipv6Addr
  bSAdelete : Bool
  visited : List Ipv6Addr

def SARecord.tick (s : SARecord) : SARecord := { s with sourceTimer := s.sourceTimer - 1 }

namespace TimerCheck

/-- The timer of a source is 0, the `LLQT timer exhaust`. -/
def expireSA (c : TimerCheck) (r : MARecord) (sa : Ipv6Addr) : TimerCheck :=
  if r.type = isIn then
    { c with
      bSAdelete := true
      tempSAR := KeyList.next (·.sa) sa r.inSAL
      massqTable := c.massqTable.map fun q => (q.delSA r.ma sa isIn).2
      lsTable := (c.lsTable.delSA r.ma sa isIn).2 }
  else if r.type = isEx then
    { c with
      bSAdelete := true
      tempSAR := KeyList.next (·.sa) sa r.inSAL
      massqTable := c.massqTable.map fun q => (q.delSA r.ma sa isIn).2
      lsTable := ((c.lsTable.addSA r.ma sa isEx).2.delSA r.ma sa isIn).2 }
  else c

/-- A round of the loop over the sources, with the next pointer -/
def checkSA (c : TimerCheck) (ma sa : Ipv6Addr) : Option (TimerCheck × Option Ipv6Addr) := do
  let r ← c.lsTable.searchMAR ma
  let s ← KeyList.find (·.sa) sa r.inSAL
  let c := if s.sourceTimer ≠ 0 then { c with lsTable := c.lsTable.modifySA ma sa (·.tick) } else c.expireSA r sa
  return (c, if c.bSAdelete then c.tempSAR else KeyList.next (·.sa) sa r.inSAL)

/-- The loop over the sources of a group. There is no result where the rounds do not suffice. -/
def checkSources (ma : Ipv6Addr) : (rounds : Nat) → TimerCheck → (ptrSAR : Option Ipv6Addr) → Option TimerCheck
  | 0, _, _ => none
  | _ + 1, c, none => some c
  | rounds + 1, c, some sa => do
      let (c, ptrSAR) ← c.checkSA ma sa
      checkSources ma rounds c ptrSAR

def deleteMA (c : TimerCheck) (ma : Ipv6Addr) : TimerCheck :=
  { c with
    massqTable := c.massqTable.map fun q => (q.delMA ma).2
    lsTable := (c.lsTable.delMA ma).2 }

/-- What is done with a group behind its sources -/
def checkMA (c : TimerCheck) (r : MARecord) : TimerCheck :=
  if r.type = isIn then
    if r.inNS = 0 then c.deleteMA r.ma else c
  else if r.type = isEx then
    if r.filterTimer ≠ 0 then
      { c with lsTable := c.lsTable.modifyMAR r.ma fun r => { r with filterTimer := r.filterTimer - 1 } }
    else if r.inNS = 0 then c.deleteMA r.ma
    else { c with lsTable := c.lsTable.modifyMAR r.ma fun r => { r with type := isIn }.destroySAL isEx }
  else c

/-- A round of the loop over the groups, with the next pointer. Unlike the flag of a source, that of a group is
reset in each round. -/
def checkGroup (c : TimerCheck) (rounds : Nat) (ma : Ipv6Addr) : Option (TimerCheck × Option Ipv6Addr) := do
  let r ← c.lsTable.searchMAR ma
  let c ← checkSources ma rounds { c with visited := c.visited ++ [ma] } (r.inSAL.head?.map (·.sa))
  let r ← c.lsTable.searchMAR ma
  return (c.checkMA r, KeyList.next (·.ma) ma c.lsTable.mar)

def checkGroups (limit : Nat) : (rounds : Nat) → TimerCheck → (ptrMAR : Option Ipv6Addr) → Option TimerCheck
  | 0, _, _ => none
  | _ + 1, c, none => some c
  | rounds + 1, c, some ma => do
      let (c, ptrMAR) ← c.checkGroup limit ma
      checkGroups limit rounds c ptrMAR

end TimerCheck

/-- `MLDv2CheckTimer` in so many rounds of each loop -/
def MLDv2Record.checkTimer (t : MLDv2Record) (massqTable : Option MLDv2Record) (rounds : Nat) : Option TimerCheck :=
  TimerCheck.checkGroups rounds rounds ⟨t, massqTable, none, false, []⟩ (t.mar.head?.map (·.ma))

/-- No included source occurs twice, and they are counted, as far as a `short` goes. -/
structure MARecord.Listed (r : MARecord) : Prop where
  distinct : KeyList.Distinct (·.sa) r.inSAL
  number : r.inNS = BitVec.ofNat 16 r.inSAL.length

/-- A listener table as it is kept, with its groups in include or exclude mode -/
structure MLDv2Record.Listed (t : MLDv2Record) : Prop where
  distinct : KeyList.Distinct (·.ma) t.mar
  records : ∀ r ∈ t.mar, r.Listed
  mode : ∀ r ∈ t.mar, r.type = isIn ∨ r.type = isEx

namespace MARecord

/-- The included sources that stay, with their timers -/
def survivors (sal : List SARecord) : List SARecord := (sal.filter fun s => s.sourceTimer ≠ 0).map (·.tick)

/-- What is to be left of a group; there is nothing when it is removed. -/
def Checked (r : MARecord) : Option MARecord → Prop
  | none => (∀ s ∈ r.inSAL, s.sourceTimer = 0) ∧ (r.type = isEx → r.filterTimer = 0)
  | some r' => r'.inSAL = survivors r.inSAL ∧ (r.type = isIn → r'.type = isIn) ∧
      (r.type = isEx → r.filterTimer ≠ 0 → r'.type = isEx ∧ r'.filterTimer = r.filterTimer - 1 ∧
        ∀ sa, sa ∈ r'.exSAL.map (·.sa) ↔
          sa ∈ r.exSAL.map (·.sa) ∨ ∃ s ∈ r.inSAL, s.sa = sa ∧ s.sourceTimer = 0)

end MARecord

namespace MLDv2Record

/-- The call returns, having visited each group once, and each is left as it is to be. -/
def TimersChecked (t : MLDv2Record) (massqTable : Option MLDv2Record) : Prop :=
  ∃ n, ∀ rounds ≥ n, ∃ c, t.checkTimer massqTable rounds = some c ∧ c.visited = t.mar.map (·.ma) ∧
    (∀ r ∈ t.mar, r.Checked (c.lsTable.searchMAR r.ma)) ∧ ∀ r ∈ c.lsTable.mar, r.ma ∈ t.mar.map (·.ma)

/-- No source that runs is behind one whose timer is 0, in its own list or among others in the list of a later group,
and where the number of the sources that stay decides, it is not a multiple of 65536, other than 0. -/
structure Orderly (t : MLDv2Record) : Prop where
  sources : ∀ r ∈ t.mar, r.inSAL.Pairwise fun s later => s.sourceTimer = 0 → later.sourceTimer = 0
  counted : ∀ r ∈ t.mar, r.type = isIn ∨ r.filterTimer = 0 →
    2 ^ 16 ∣ (MARecord.survivors r.inSAL).length → MARecord.survivors r.inSAL = []
  groups : t.mar.Pairwise fun r later => (∃ s ∈ r.inSAL, s.sourceTimer = 0) →
    later.inSAL.length ≤ 1 ∨ ∀ s ∈ later.inSAL, s.sourceTimer = 0

end MLDv2Record

namespace MARecord

/-- What the loop over the sources does besides: the sources that are gone are excluded in exclude mode. -/
structure Moves (gone : List SARecord) (r r' : MARecord) : Prop where
  ma : r'.ma = r.ma
  type : r'.type = r.type
  filterTimer : r'.filterTimer = r.filterTimer
  exSAL : ∀ sa, sa ∈ r'.exSAL.map (·.sa) ↔ sa ∈ r.exSAL.map (·.sa) ∨ r.type = isEx ∧ sa ∈ gone.map (·.sa)

namespace Moves

variable {r r' r'' : MARecord} {gone more : List SARecord}

theorem trans (first : Moves gone r r') (second : Moves more r' r'') : Moves (gone ++ more) r r'' where
  ma := second.ma.trans first.ma
  type := second.type.trans first.type
  filterTimer := second.filterTimer.trans first.filterTimer
  exSAL sa := by
    rw [second.exSAL, first.exSAL, first.type, List.map_append, List.mem_append]
    tauto

theorem refl : Moves [] r r := ⟨rfl, rfl, rfl, fun sa => by simp⟩

theorem of_tick {sal : List SARecord} : Moves [] r { r with inSAL := sal } where
  ma := rfl
  type := rfl
  filterTimer := rfl
  exSAL sa := by simp

end Moves

@[simp] theorem setNS_filterTimer {r : MARecord} : r.setNS.filterTimer = r.filterTimer := by
  unfold setNS
  repeat' split
  all_goals rfl

variable {r : MARecord} {live rest : List SARecord} {s : SARecord}

theorem Listed.unlinkSA (listed : r.Listed) (sal : r.inSAL = live ++ s :: rest) :
    (r.unlinkSA s.sa isIn).setNS.inSAL = live ++ rest ∧ (r.unlinkSA s.sa isIn).setNS.Listed ∧
      Moves [] r (r.unlinkSA s.sa isIn).setNS := by
  have distinct := listed.distinct
  have number := listed.number
  rw [sal] at distinct number
  have unlinked : (r.unlinkSA s.sa isIn).inSAL = live ++ rest := by
    change KeyList.remove (·.sa) s.sa r.inSAL = _
    rw [sal]
    exact distinct.remove_middle
  have fewer : r.inNS - 1 = BitVec.ofNat 16 (live ++ rest).length := by
    rw [number, List.length_append, List.length_append, List.length_cons]
    bv_omega
  refine ⟨setNS_inSAL.trans unlinked, ⟨?_, ?_⟩, ⟨setNS_ma, setNS_type, setNS_filterTimer, fun sa => ?_⟩⟩
  · rw [setNS_inSAL, unlinked, ← distinct.remove_middle]
    exact distinct.remove
  · rw [setNS_inSAL, setNS_inNS, unlinked]
    exact fewer
  · rw [setNS_exSAL]
    simp [MARecord.unlinkSA]

theorem Listed.linkSA (listed : r.Listed) : (r.linkSA s.sa isEx).setNS.inSAL = r.inSAL ∧
    (r.linkSA s.sa isEx).setNS.Listed ∧ (r.type = isEx → Moves [s] r (r.linkSA s.sa isEx).setNS) := by
  refine ⟨setNS_inSAL, ⟨?_, ?_⟩, fun excluded => ⟨setNS_ma, setNS_type, setNS_filterTimer, fun sa => ?_⟩⟩
  · rw [setNS_inSAL]
    exact listed.distinct
  · rw [setNS_inSAL, setNS_inNS]
    exact listed.number
  · rw [setNS_exSAL]
    change sa ∈ s.sa :: r.exSAL.map (·.sa) ↔ _
    rw [List.mem_cons, List.map_singleton, List.mem_singleton]
    tauto

end MARecord

namespace MLDv2Record

/-- A group of a table, between the others -/
structure At (before after : List MARecord) (r : MARecord) (t : MLDv2Record) : Prop where
  mar : t.mar = before ++ r :: after
  distinct : KeyList.Distinct (·.ma) (before ++ r :: after)
  listed : r.Listed
  mode : r.type = isIn ∨ r.type = isEx

namespace At

variable {before after : List MARecord} {r r' : MARecord} {t t' : MLDv2Record} {live rest : List SARecord} {s : SARecord}

theorem searchMAR (here : At before after r t) : t.searchMAR r.ma = some r := by
  unfold MLDv2Record.searchMAR
  rw [here.mar]
  exact here.distinct.find_middle

theorem modifyMAR (here : At before after r t) (f : MARecord → MARecord) :
    (t.modifyMAR r.ma f).mar = before ++ f r :: after := by
  change KeyList.modify (·.ma) r.ma f t.mar = _
  rw [here.mar]
  exact here.distinct.modify_middle

/-- The group is the same after a change, with another record. -/
theorem changed {gone : List SARecord} (here : At before after r t) (mar : t'.mar = before ++ r' :: after)
    (moves : r.Moves gone r') (listed : r'.Listed) : At before after r' t' where
  mar := mar
  distinct := by
    have distinct := here.distinct
    unfold KeyList.Distinct at distinct ⊢
    rw [List.map_append, List.map_cons, moves.ma]
    rwa [List.map_append, List.map_cons] at distinct
  listed := listed
  mode := by
    rw [moves.type]
    exact here.mode

theorem find (here : At before after r t) (sal : r.inSAL = live ++ s :: rest) :
    KeyList.find (·.sa) s.sa r.inSAL = some s := by
  have distinct := here.listed.distinct
  rw [sal] at distinct ⊢
  exact distinct.find_middle

theorem next (here : At before after r t) (sal : r.inSAL = live ++ s :: rest) :
    KeyList.next (·.sa) s.sa r.inSAL = rest.head?.map (·.sa) := by
  have distinct := here.listed.distinct
  rw [sal] at distinct ⊢
  exact distinct.next_middle

theorem modifySA (here : At before after r t) (sal : r.inSAL = live ++ s :: rest) :
    ∃ r', At before after r' (t.modifySA r.ma s.sa SARecord.tick) ∧ r.Moves [] r' ∧
      r'.inSAL = live ++ s.tick :: rest := by
  have ticked : KeyList.modify (·.sa) s.sa SARecord.tick r.inSAL = live ++ s.tick :: rest := by
    have distinct := here.listed.distinct
    rw [sal] at distinct ⊢
    exact distinct.modify_middle
  have listed : ({ r with inSAL := KeyList.modify (·.sa) s.sa SARecord.tick r.inSAL } : MARecord).Listed := by
    refine ⟨here.listed.distinct.modify fun _ same => same, ?_⟩
    change r.inNS = _
    rw [KeyList.length_modify]
    exact here.listed.number
  exact ⟨_, here.changed (here.modifyMAR _) .of_tick listed, .of_tick, ticked⟩

theorem delSA (here : At before after r t) (sal : r.inSAL = live ++ s :: rest) :
    ∃ r', At before after r' (t.delSA r.ma s.sa isIn).2 ∧ r.Moves [] r' ∧ r'.inSAL = live ++ rest := by
  obtain ⟨shorter, listed, moves⟩ := here.listed.unlinkSA sal
  have deleted : (t.delSA r.ma s.sa isIn).2 = t.modifyMAR r.ma fun r => (r.unlinkSA s.sa isIn).setNS := by
    unfold MLDv2Record.delSA searchSA
    rw [here.searchMAR, Option.bind_some, MARecord.sal_isIn, here.find sal]
  refine ⟨_, here.changed ?_ moves listed, moves, shorter⟩
  rw [deleted]
  exact here.modifyMAR _

theorem addSA (here : At before after r t) (excluded : r.type = isEx) (s : SARecord) :
    ∃ r', At before after r' (t.addSA r.ma s.sa isEx).2 ∧ r.Moves [s] r' ∧ r'.inSAL = r.inSAL := by
  obtain ⟨same, listed, moves⟩ := here.listed.linkSA (s := s)
  unfold MLDv2Record.addSA searchSA
  rw [here.searchMAR, Option.bind_some]
  cases entry : KeyList.find (·.sa) s.sa (r.sal isEx) with
  | none => exact ⟨_, here.changed (here.modifyMAR _) (moves excluded) listed, moves excluded, same⟩
  | some found =>
      refine ⟨r, here, ⟨rfl, rfl, rfl, fun sa => ?_⟩, rfl⟩
      have inside : s.sa ∈ r.exSAL.map (·.sa) := KeyList.find_isSome.mp (Option.isSome_iff_exists.mpr ⟨found, entry⟩)
      rw [List.map_singleton, List.mem_singleton]
      constructor
      · exact Or.inl
      · intro either
        rcases either with before | ⟨-, rfl⟩
        · exact before
        · exact inside

end At

end MLDv2Record

namespace TimerCheck

open MLDv2Record

variable {before after : List MARecord} {r : MARecord} {c : TimerCheck} {live rest : List SARecord} {s : SARecord}

theorem checkSA_found (here : At before after r c.lsTable) (sal : r.inSAL = live ++ s :: rest) :
    c.checkSA r.ma s.sa =
      let c := if s.sourceTimer ≠ 0 then { c with lsTable := c.lsTable.modifySA r.ma s.sa (·.tick) }
        else c.expireSA r s.sa
      some (c, if c.bSAdelete then c.tempSAR else rest.head?.map (·.sa)) := by
  unfold checkSA
  rw [here.searchMAR, Option.bind_eq_bind, Option.bind_some, here.find sal, Option.bind_eq_bind, Option.bind_some,
    here.next sal]
  rfl

theorem checkSA_running (here : At before after r c.lsTable) (sal : r.inSAL = live ++ s :: rest)
    (running : s.sourceTimer ≠ 0) : ∃ c' r',
      c.checkSA r.ma s.sa = some (c', if c.bSAdelete then c.tempSAR else rest.head?.map (·.sa)) ∧
      At before after r' c'.lsTable ∧ r.Moves [] r' ∧ r'.inSAL = live ++ s.tick :: rest ∧
      c'.bSAdelete = c.bSAdelete ∧ c'.tempSAR = c.tempSAR ∧ c'.visited = c.visited := by
  obtain ⟨r', there, moves, sal'⟩ := here.modifySA sal
  refine ⟨{ c with lsTable := c.lsTable.modifySA r.ma s.sa SARecord.tick }, r', ?_, there, moves, sal', rfl, rfl, rfl⟩
  rw [checkSA_found here sal, if_pos running]

theorem checkSA_expired (here : At before after r c.lsTable) (sal : r.inSAL = live ++ s :: rest)
    (expired : s.sourceTimer = 0) : ∃ c' r', c.checkSA r.ma s.sa = some (c', rest.head?.map (·.sa)) ∧
      At before after r' c'.lsTable ∧ r.Moves [s] r' ∧ r'.inSAL = live ++ rest ∧
      c'.bSAdelete = true ∧ c'.tempSAR = rest.head?.map (·.sa) ∧ c'.visited = c.visited := by
  have checked := checkSA_found here sal
  rw [if_neg (not_not_intro expired)] at checked
  rcases here.mode with included | excluded
  · obtain ⟨r', there, moves, sal'⟩ := here.delSA sal
    unfold expireSA at checked
    rw [if_pos included, here.next sal] at checked
    refine ⟨_, r', checked, there, ⟨moves.ma, moves.type, moves.filterTimer, fun sa => ?_⟩, sal', rfl, rfl, rfl⟩
    rw [moves.exSAL, included]
    simp [isIn, isEx]
  · obtain ⟨r', there, moves, same⟩ := here.addSA excluded s
    obtain ⟨r'', away, moves', sal'⟩ := there.delSA (same.trans sal)
    unfold expireSA at checked
    rw [if_neg (by rw [excluded]; decide), if_pos excluded, here.next sal] at checked
    rw [moves.ma] at away
    exact ⟨_, r'', checked, away, moves.trans moves', sal', rfl, rfl, rfl⟩

/-- From a pointer the loop comes to another one. -/
def Steps (ma : Ipv6Addr) (c : TimerCheck) (ptrSAR : Option Ipv6Addr) (c' : TimerCheck) (ptrSAR' : Option Ipv6Addr) :
    Prop :=
  ∃ k, ∀ rounds, checkSources ma (rounds + k) c ptrSAR = checkSources ma rounds c' ptrSAR'

namespace Steps

variable {ma sa : Ipv6Addr} {c c' c'' : TimerCheck} {ptrSAR ptrSAR' ptrSAR'' : Option Ipv6Addr}

theorem refl : Steps ma c ptrSAR c ptrSAR := ⟨0, fun _ => rfl⟩

theorem trans (first : Steps ma c ptrSAR c' ptrSAR') (second : Steps ma c' ptrSAR' c'' ptrSAR'') :
    Steps ma c ptrSAR c'' ptrSAR'' := by
  obtain ⟨k, first⟩ := first
  obtain ⟨k', second⟩ := second
  exact ⟨k' + k, fun rounds => by rw [← Nat.add_assoc, first, second]⟩

theorem head (checked : c.checkSA ma sa = some (c', ptrSAR')) (steps : Steps ma c' ptrSAR' c'' ptrSAR'') :
    Steps ma c (some sa) c'' ptrSAR'' := by
  refine trans ⟨1, fun rounds => ?_⟩ steps
  rw [checkSources, checked]
  rfl

/-- The loop ends at the null pointer. -/
theorem returns (steps : Steps ma c ptrSAR c' none) : ∃ n, ∀ rounds ≥ n, checkSources ma rounds c ptrSAR = some c' := by
  obtain ⟨k, steps⟩ := steps
  refine ⟨k + 1, fun rounds enough => ?_⟩
  obtain ⟨more, rfl⟩ := Nat.exists_eq_add_of_le enough
  have shifted : k + 1 + more = more + 1 + k := by omega
  rw [shifted, steps]
  rfl

end Steps

theorem drain_source (here : At before after r c.lsTable) (sal : r.inSAL = live ++ s :: rest)
    (deleted : c.bSAdelete = true) (stale : c.tempSAR = some s.sa) : ∃ c' r',
      Steps r.ma c (some s.sa) c' (rest.head?.map (·.sa)) ∧
      At before after r' c'.lsTable ∧ r.Moves [s] r' ∧ r'.inSAL = live ++ rest ∧
      c'.bSAdelete = true ∧ c'.tempSAR = rest.head?.map (·.sa) ∧ c'.visited = c.visited := by
  generalize timer : s.sourceTimer.toNat = k
  induction k generalizing c r s with
  | zero =>
      obtain ⟨c', r', checked, there, moves, sal', deleted', stale', visited⟩ :=
        checkSA_expired here sal (BitVec.eq_of_toNat_eq timer)
      exact ⟨c', r', .head checked .refl, there, moves, sal', deleted', stale', visited⟩
  | succ k ih =>
      have running : s.sourceTimer ≠ 0 := by
        intro expired
        rw [expired] at timer
        cases timer
      have less : s.tick.sourceTimer.toNat = k := by
        change (s.sourceTimer - 1).toNat = k
        bv_omega
      obtain ⟨c', r', checked, there, moves, sal', deleted', stale', visited⟩ := checkSA_running here sal running
      rw [if_pos deleted, stale] at checked
      obtain ⟨c'', r'', steps, away, moves', sal'', deleted'', stale'', visited'⟩ :=
        ih there sal' (deleted'.trans deleted) (stale'.trans stale) less
      rw [moves.ma] at steps
      exact ⟨c'', r'', .head checked steps, away, moves.trans ⟨moves'.ma, moves'.type, moves'.filterTimer, moves'.exSAL⟩,
        sal'', deleted'', stale'', visited'.trans visited⟩

theorem drain (here : At before after r c.lsTable) (sal : r.inSAL = live ++ rest) (deleted : c.bSAdelete = true)
    (stale : c.tempSAR = rest.head?.map (·.sa)) : ∃ c' r', Steps r.ma c (rest.head?.map (·.sa)) c' none ∧
      At before after r' c'.lsTable ∧ r.Moves rest r' ∧ r'.inSAL = live ∧
      c'.bSAdelete = true ∧ c'.tempSAR = none ∧ c'.visited = c.visited := by
  induction rest generalizing c r with
  | nil => exact ⟨c, r, .refl, here, .refl, sal.trans (List.append_nil live), deleted, stale, rfl⟩
  | cons s rest ih =>
      obtain ⟨c', r', steps, there, moves, sal', deleted', stale', visited⟩ := drain_source here sal deleted stale
      obtain ⟨c'', r'', steps', away, moves', sal'', deleted'', stale'', visited'⟩ := ih there sal' deleted' stale'
      rw [moves.ma] at steps'
      exact ⟨c'', r'', steps.trans steps', away, moves.trans moves', sal'', deleted'', stale'', visited'.trans visited⟩

end TimerCheck

namespace MARecord

/-- The included sources that are left, by the flag from the groups before: behind a deleted source none is, and once
the flag is set only the first one is visited, if it runs. -/
def left : Bool → List SARecord → List SARecord
  | false, sal => (sal.takeWhile (·.sourceTimer ≠ 0)).map (·.tick)
  | true, [] => []
  | true, s :: rest => if s.sourceTimer ≠ 0 then s.tick :: rest else []

def gone : Bool → List SARecord → List SARecord
  | false, sal => sal.dropWhile (·.sourceTimer ≠ 0)
  | true, [] => []
  | true, s :: rest => if s.sourceTimer ≠ 0 then [] else s :: rest

def expired (sal : List SARecord) : Bool := sal.any (·.sourceTimer = 0)

end MARecord

namespace TimerCheck

open MLDv2Record

variable {before after : List MARecord} {r : MARecord} {c : TimerCheck} {live rest : List SARecord} {s : SARecord}

theorem sources_first (here : At before after r c.lsTable) (sal : r.inSAL = live ++ rest)
    (fresh : c.bSAdelete = false) (null : c.tempSAR = none) : ∃ c' r', Steps r.ma c (rest.head?.map (·.sa)) c' none ∧
      At before after r' c'.lsTable ∧ r.Moves (MARecord.gone false rest) r' ∧
      r'.inSAL = live ++ MARecord.left false rest ∧
      c'.bSAdelete = MARecord.expired rest ∧ c'.tempSAR = none ∧ c'.visited = c.visited := by
  induction rest generalizing live c r with
  | nil => exact ⟨c, r, .refl, here, .refl, sal, fresh, null, rfl⟩
  | cons s rest ih =>
      by_cases expired : s.sourceTimer = 0#32
      · obtain ⟨c', r', checked, there, moves, sal', deleted, stale, visited⟩ := checkSA_expired here sal expired
        obtain ⟨c'', r'', steps, away, moves', sal'', deleted', stale', visited'⟩ := drain there sal' deleted stale
        rw [moves.ma] at steps
        refine ⟨c'', r'', .head checked steps, away, ?_, ?_, ?_, stale', visited'.trans visited⟩
        · simpa [MARecord.gone, expired] using moves.trans moves'
        · simpa [MARecord.left, expired] using sal''
        · simpa [MARecord.expired, expired] using deleted'
      · obtain ⟨c', r', checked, there, moves, sal', same, null', visited⟩ := checkSA_running here sal expired
        rw [fresh, if_neg Bool.false_ne_true] at checked
        rw [List.append_cons] at sal'
        obtain ⟨c'', r'', steps, away, moves', sal'', deleted, null'', visited'⟩ :=
          ih there sal' (same.trans fresh) (null'.trans null)
        rw [moves.ma] at steps
        refine ⟨c'', r'', .head checked steps, away, ?_, ?_, ?_, null'', visited'.trans visited⟩
        · simpa [MARecord.gone, expired] using moves.trans moves'
        · simpa [MARecord.left, expired] using sal''
        · simpa [MARecord.expired, expired] using deleted

theorem sources (here : At before after r c.lsTable) (null : c.tempSAR = none) : ∃ c' r',
      Steps r.ma c (r.inSAL.head?.map (·.sa)) c' none ∧
      At before after r' c'.lsTable ∧ r.Moves (MARecord.gone c.bSAdelete r.inSAL) r' ∧
      r'.inSAL = MARecord.left c.bSAdelete r.inSAL ∧
      c'.bSAdelete = (c.bSAdelete || MARecord.expired r.inSAL) ∧ c'.tempSAR = none ∧ c'.visited = c.visited := by
  cases flag : c.bSAdelete with
  | false => exact sources_first here (show r.inSAL = [] ++ r.inSAL from rfl) flag null
  | true =>
      cases sal : r.inSAL with
      | nil => exact ⟨c, r, .refl, here, .refl, sal, flag, null, rfl⟩
      | cons s rest =>
          by_cases expired : s.sourceTimer = 0#32
          · obtain ⟨c', r', checked, there, moves, sal', deleted, stale, visited⟩ :=
              checkSA_expired here (show r.inSAL = [] ++ s :: rest from sal) expired
            obtain ⟨c'', r'', steps, away, moves', sal'', deleted', stale', visited'⟩ := drain there sal' deleted stale
            rw [moves.ma] at steps
            refine ⟨c'', r'', .head checked steps, away, ?_, ?_, deleted', stale', visited'.trans visited⟩
            · simpa [MARecord.gone, expired] using moves.trans moves'
            · simpa [MARecord.left, expired] using sal''
          · obtain ⟨c', r', checked, there, moves, sal', same, null', visited⟩ :=
              checkSA_running here (show r.inSAL = [] ++ s :: rest from sal) expired
            rw [flag, if_pos rfl, null] at checked
            refine ⟨c', r', .head checked .refl, there, ?_, ?_, same.trans flag, null'.trans null, visited⟩
            · simpa [MARecord.gone, expired] using moves
            · simpa [MARecord.left, expired] using sal'

end TimerCheck

namespace MARecord

variable {r r' : MARecord} {o : Option MARecord} {flag : Bool} {sal rest : List SARecord} {s : SARecord}

/-- What `checkMA` leaves of a group -/
def checked (r : MARecord) : Option MARecord :=
  if r.type = isIn then
    if r.inNS = 0 then none else some r
  else if r.type = isEx then
    if r.filterTimer ≠ 0 then some { r with filterTimer := r.filterTimer - 1 }
    else if r.inNS = 0 then none
    else some ({ r with type := isIn }.destroySAL isEx)
  else some r

theorem checked_ma (kept : r.checked = some r') : r'.ma = r.ma := by
  revert kept
  unfold checked
  repeat' split
  all_goals
    intro kept
    cases kept
    try rfl

/-- What the call leaves of a group that it comes to with the flag -/
def Outcome (flag : Bool) (r : MARecord) (o : Option MARecord) : Prop :=
  ∃ r', r.Moves (gone flag r.inSAL) r' ∧ r'.inSAL = left flag r.inSAL ∧ r'.Listed ∧ o = r'.checked

theorem Outcome.ma (outcome : r.Outcome flag o) (kept : o = some r') : r'.ma = r.ma := by
  obtain ⟨r'', moves, -, -, same⟩ := outcome
  exact (checked_ma (same.symm.trans kept)).trans moves.ma

inductive Outcomes : Bool → List MARecord → List (Option MARecord) → Prop
  | nil {flag : Bool} : Outcomes flag [] []
  | cons {flag : Bool} {r : MARecord} {o : Option MARecord} {rs : List MARecord} {os : List (Option MARecord)}
      (outcome : r.Outcome flag o) (later : Outcomes (flag || expired r.inSAL) rs os) : Outcomes flag (r :: rs) (o :: os)

end MARecord

namespace TimerCheck

open MLDv2Record

variable {before after : List MARecord} {r : MARecord} {c : TimerCheck}

theorem deleteMA_at (here : At before after r c.lsTable) : (c.deleteMA r.ma).lsTable.mar = before ++ after := by
  change (c.lsTable.delMA r.ma).2.mar = _
  unfold delMA
  rw [here.searchMAR]
  change KeyList.remove (·.ma) r.ma c.lsTable.mar = _
  rw [here.mar]
  exact here.distinct.remove_middle

theorem checkMA_at (here : At before after r c.lsTable) :
    (c.checkMA r).lsTable.mar = before ++ (r.checked.toList ++ after) ∧ (c.checkMA r).visited = c.visited ∧
      (c.checkMA r).bSAdelete = c.bSAdelete ∧ (c.checkMA r).tempSAR = c.tempSAR := by
  unfold checkMA MARecord.checked
  split
  · split
    · exact ⟨deleteMA_at here, rfl, rfl, rfl⟩
    · exact ⟨here.mar, rfl, rfl, rfl⟩
  · split
    · split
      · exact ⟨here.modifyMAR _, rfl, rfl, rfl⟩
      · split
        · exact ⟨deleteMA_at here, rfl, rfl, rfl⟩
        · exact ⟨here.modifyMAR _, rfl, rfl, rfl⟩
    · exact ⟨here.mar, rfl, rfl, rfl⟩

theorem checkGroup_at (here : At before after r c.lsTable) (null : c.tempSAR = none) : ∃ c' o,
    (∃ n, ∀ rounds ≥ n, c.checkGroup rounds r.ma = some (c', after.head?.map (·.ma))) ∧
      c'.lsTable.mar = before ++ (o.toList ++ after) ∧ r.Outcome c.bSAdelete o ∧
      c'.visited = c.visited ++ [r.ma] ∧ c'.bSAdelete = (c.bSAdelete || MARecord.expired r.inSAL) ∧
      c'.tempSAR = none := by
  obtain ⟨c', r', steps, there, moves, sal, deleted, null', visited⟩ :=
    sources (c := { c with visited := c.visited ++ [r.ma] }) here null
  obtain ⟨n, returns⟩ := steps.returns
  obtain ⟨mar, seen, flag, null''⟩ := checkMA_at there
  refine ⟨c'.checkMA r', r'.checked, ⟨n, fun rounds enough => ?_⟩, mar, ⟨r', moves, sal, there.listed, rfl⟩,
    seen.trans visited, flag.trans deleted, null''.trans null'⟩
  unfold checkGroup
  have found := there.searchMAR
  have next := there.distinct.next_middle
  rw [moves.ma] at found next
  rw [here.searchMAR, Option.bind_eq_bind, Option.bind_some, returns rounds enough, Option.bind_eq_bind,
    Option.bind_some, found, Option.bind_some, there.mar, next]
  rfl

theorem groups {rs : List MARecord} (mar : c.lsTable.mar = before ++ rs)
    (distinct : KeyList.Distinct (·.ma) (before ++ rs)) (listed : ∀ r ∈ rs, r.Listed)
    (mode : ∀ r ∈ rs, r.type = isIn ∨ r.type = isEx) (null : c.tempSAR = none) : ∃ c' os,
    (∃ n, ∀ limit ≥ n, ∀ rounds ≥ n, checkGroups limit rounds c (rs.head?.map (·.ma)) = some c') ∧
      c'.visited = c.visited ++ rs.map (·.ma) ∧ MARecord.Outcomes c.bSAdelete rs os ∧
      c'.lsTable.mar = before ++ os.reduceOption := by
  induction rs generalizing before c with
  | nil =>
      refine ⟨c, [], ⟨1, fun limit _ rounds enough => ?_⟩, (List.append_nil _).symm, .nil, mar⟩
      obtain ⟨more, rfl⟩ := Nat.exists_eq_add_of_le' enough
      rfl
  | cons r rs ih =>
      have here : At before rs r c.lsTable :=
        ⟨mar, distinct, listed r List.mem_cons_self, mode r List.mem_cons_self⟩
      obtain ⟨c', o, ⟨n, returns⟩, mar', outcome, visited, flag, null'⟩ := checkGroup_at here null
      have distinct' : KeyList.Distinct (·.ma) (before ++ o.toList ++ rs) := by
        unfold KeyList.Distinct at distinct ⊢
        rw [List.map_append, List.map_cons] at distinct
        rw [List.append_assoc, List.map_append, List.map_append]
        cases kept : o with
        | none => exact distinct.sublist (List.Sublist.append_left (List.sublist_cons_self _ _) _)
        | some r' =>
            change (before.map (·.ma) ++ r'.ma :: rs.map (·.ma)).Nodup
            rwa [outcome.ma kept]
      obtain ⟨c'', os, ⟨n', returns'⟩, visited', outcomes, mar''⟩ := ih
        (mar'.trans (List.append_assoc _ _ _).symm) distinct' (fun r inside => listed r (List.mem_cons_of_mem _ inside))
        (fun r inside => mode r (List.mem_cons_of_mem _ inside)) null'
      refine ⟨c'', o :: os, ⟨max n n' + 1, fun limit enough rounds more => ?_⟩, ?_, .cons outcome ?_, ?_⟩
      · obtain ⟨rest, rfl⟩ := Nat.exists_eq_add_of_le' more
        change (c.checkGroup limit r.ma >>= fun s => checkGroups limit (rest + max n n') s.1 s.2) = _
        rw [returns limit (by omega), Option.bind_eq_bind, Option.bind_some]
        exact returns' limit (by omega) _ (by omega)
      · rw [visited', visited, List.append_assoc, List.singleton_append, List.map_cons]
      · rwa [← flag]
      · rw [mar'', List.append_assoc]
        cases o with
        | none => rfl
        | some r' => rfl

end TimerCheck

namespace MARecord

variable {r r' : MARecord} {o : Option MARecord} {flag : Bool} {sal rest : List SARecord} {s : SARecord}

theorem survivors_eq_nil : survivors sal = [] ↔ ∀ s ∈ sal, s.sourceTimer = 0 := by
  unfold survivors
  simp

theorem survivors_running (running : s.sourceTimer ≠ 0#32) : survivors (s :: sal) = s.tick :: survivors sal := by
  unfold survivors
  rw [List.filter_cons_of_pos (by simpa using running), List.map_cons]

theorem survivors_expired (expired : s.sourceTimer = 0#32) : survivors (s :: sal) = survivors sal := by
  unfold survivors
  rw [List.filter_cons_of_neg (by simpa using expired)]

/-- No list of sources that run is what is left of it. -/
theorem eq_survivors : sal = survivors sal ↔ sal = [] := by
  constructor
  · intro same
    cases sal with
    | nil => rfl
    | cons s rest =>
        have whole := congrArg List.length same
        by_cases expired : s.sourceTimer = 0#32
        · rw [survivors_expired expired] at whole
          have fewer : (survivors rest).length ≤ rest.length := by
            unfold survivors
            rw [List.length_map]
            exact List.length_filter_le _ _
          rw [List.length_cons] at whole
          omega
        · rw [survivors_running expired] at same
          have ticked : s.sourceTimer = s.sourceTimer - 1 := congrArg SARecord.sourceTimer (List.cons.inj same).1
          bv_omega
  · rintro rfl
    rfl

/-- What the stale flag is harmless to -/
def Few (sal : List SARecord) : Prop := sal.length ≤ 1 ∨ ∀ s ∈ sal, s.sourceTimer = 0

def Sorted (sal : List SARecord) : Prop := sal.Pairwise fun s later => s.sourceTimer = 0 → later.sourceTimer = 0

theorem sorted_running (running : s.sourceTimer ≠ 0#32) : Sorted (s :: rest) ↔ Sorted rest := by
  unfold Sorted
  rw [List.pairwise_cons]
  constructor
  · exact And.right
  · exact fun later => ⟨fun _ _ expired => absurd expired running, later⟩

theorem sorted_expired (expired : s.sourceTimer = 0#32) : Sorted (s :: rest) ↔ ∀ s ∈ rest, s.sourceTimer = 0 := by
  unfold Sorted
  rw [List.pairwise_cons]
  constructor
  · exact fun both later inside => both.1 later inside expired
  · intro all
    exact ⟨fun later inside _ => all later inside, List.pairwise_of_forall_mem_list fun _ _ later inside _ =>
      all later inside⟩

theorem left_false : left false sal = survivors sal ↔ Sorted sal := by
  induction sal with
  | nil => exact iff_of_true rfl List.Pairwise.nil
  | cons s rest ih =>
      by_cases expired : s.sourceTimer = 0#32
      · have none : left false (s :: rest) = [] := by simp [left, expired]
        rw [none, survivors_expired expired, eq_comm, survivors_eq_nil, sorted_expired expired]
      · have kept : left false (s :: rest) = s.tick :: left false rest := by simp [left, expired]
        rw [kept, survivors_running expired, List.cons_inj_right, ih, sorted_running expired]

theorem left_true : left true sal = survivors sal ↔ Sorted sal ∧ Few sal := by
  cases sal with
  | nil => exact iff_of_true rfl ⟨List.Pairwise.nil, Or.inl (Nat.zero_le 1)⟩
  | cons s rest =>
      by_cases expired : s.sourceTimer = 0#32
      · have none : left true (s :: rest) = [] := by simp [left, expired]
        rw [none, survivors_expired expired, eq_comm, survivors_eq_nil, sorted_expired expired]
        constructor
        · exact fun all => ⟨all, Or.inr (List.forall_mem_cons.mpr ⟨expired, all⟩)⟩
        · exact And.left
      · have kept : left true (s :: rest) = s.tick :: rest := by simp [left, expired]
        rw [kept, survivors_running expired, List.cons_inj_right, eq_survivors, sorted_running expired]
        constructor
        · rintro rfl
          exact ⟨List.Pairwise.nil, Or.inl (Nat.le_refl 1)⟩
        · intro both
          rcases both.2 with single | all
          · exact List.eq_nil_of_length_eq_zero (Nat.le_zero.mp (Nat.le_of_succ_le_succ single))
          · exact absurd (all s List.mem_cons_self) expired

theorem left_eq : left flag sal = survivors sal ↔ Sorted sal ∧ (flag = true → Few sal) := by
  cases flag with
  | false => rw [left_false]; simp
  | true => rw [left_true]; simp

/-- Where those that run stay, the others go. -/
theorem mem_gone (right : Sorted sal ∧ (flag = true → Few sal)) : s ∈ gone flag sal ↔ s ∈ sal ∧ s.sourceTimer = 0 := by
  obtain ⟨sorted, few⟩ := right
  induction sal with
  | nil => cases flag <;> simp [gone]
  | cons first rest ih =>
      by_cases expired : first.sourceTimer = 0#32
      · have all : gone flag (first :: rest) = first :: rest := by cases flag <;> simp [gone, expired]
        rw [all]
        constructor
        · intro inside
          refine ⟨inside, ?_⟩
          rcases List.mem_cons.mp inside with rfl | later
          · exact expired
          · exact (sorted_expired expired).mp sorted s later
        · exact And.left
      · have differs (inside : s = first) : ¬ s.sourceTimer = 0 := by
          rw [inside]
          exact expired
        cases flag with
        | false =>
            have later : gone false (first :: rest) = gone false rest := by simp [gone, expired]
            rw [later, ih ((sorted_running expired).mp sorted) (fun set => Bool.noConfusion set), List.mem_cons, or_and_right]
            exact (or_iff_right fun both => differs both.1 both.2).symm
        | true =>
            have none : gone true (first :: rest) = [] := by simp [gone, expired]
            rcases few rfl with single | all
            · cases List.eq_nil_of_length_eq_zero (Nat.le_zero.mp (Nat.le_of_succ_le_succ single))
              rw [none, List.mem_singleton]
              exact iff_of_false List.not_mem_nil fun both => differs both.1 both.2
            · exact absurd (all first List.mem_cons_self) expired

theorem Listed.inNS_zero (listed : r.Listed) : r.inNS = 0 ↔ 2 ^ 16 ∣ r.inSAL.length := by
  rw [listed.number, Nat.dvd_iff_mod_eq_zero, ← BitVec.toNat_inj]
  rfl

theorem checked_inSAL (kept : r.checked = some r') : r'.inSAL = r.inSAL := by
  revert kept
  unfold checked
  repeat' split
  all_goals
    intro kept
    cases kept
    try rfl

theorem all_expired (all : ∀ s ∈ sal, s.sourceTimer = 0) : Sorted sal ∧ (flag = true → Few sal) :=
  ⟨List.pairwise_of_forall_mem_list fun _ _ later inside _ => all later inside, fun _ => Or.inr all⟩

/-- The number of the sources that stay decides whether the group is removed. -/
def Decides (r : MARecord) : Prop := r.type = isIn ∨ r.filterTimer = 0

theorem checked_none_iff (decides : r.Decides) (timed : r.type = isEx → r.filterTimer = 0)
    (multiple : 2 ^ 16 ∣ (survivors r.inSAL).length) : r.Checked none ↔
      (r.Decides → 2 ^ 16 ∣ (survivors r.inSAL).length → survivors r.inSAL = []) := by
  constructor
  · exact fun checked _ _ => survivors_eq_nil.mpr checked.1
  · exact fun bounded => ⟨survivors_eq_nil.mp (bounded decides multiple), timed⟩

theorem checked_iff_of_right {gone : List SARecord} (moves : r.Moves gone r') (right : r'.inSAL = survivors r.inSAL)
    (listed : r'.Listed) (mode : r.type = isIn ∨ r.type = isEx)
    (moved : ∀ s, s ∈ gone ↔ s ∈ r.inSAL ∧ s.sourceTimer = 0) :
    r.Checked r'.checked ↔ (r.Decides → 2 ^ 16 ∣ (survivors r.inSAL).length → survivors r.inSAL = []) := by
  have counted := listed.inNS_zero
  rw [right] at counted
  have differs : isIn ≠ isEx := by decide
  unfold checked
  rcases mode with included | excluded
  · have other (excluded : r.type = isEx) : False := differs (included.symm.trans excluded)
    rw [if_pos (moves.type.trans included)]
    split
    · rename_i zero
      exact checked_none_iff (Or.inl included) (fun excluded => (other excluded).elim) (counted.mp zero)
    · rename_i positive
      refine iff_of_true ⟨right, fun _ => moves.type.trans included, fun excluded => ?_⟩ fun _ multiple => ?_
      · exact (other excluded).elim
      · exact absurd (counted.mpr multiple) positive
  · have other : r.type ≠ isIn := by
      rw [excluded]
      exact differs.symm
    rw [if_neg (by rwa [moves.type]), if_pos (moves.type.trans excluded), moves.filterTimer]
    split
    · rename_i running
      refine iff_of_true ⟨right, fun included => absurd included other, fun _ _ => ⟨moves.type.trans excluded, rfl,
        fun sa => ?_⟩⟩ fun decides => ?_
      · have behind : sa ∈ gone.map (·.sa) ↔ ∃ s ∈ r.inSAL, s.sa = sa ∧ s.sourceTimer = 0 := by
          rw [List.mem_map]
          refine exists_congr fun s => ?_
          rw [moved, and_assoc, and_comm (a := s.sourceTimer = 0)]
        rw [moves.exSAL, behind, and_iff_right excluded]
      · exact absurd (decides.resolve_left other) running
    · rename_i expired
      have expired := not_not.mp expired
      split
      · rename_i zero
        exact checked_none_iff (Or.inr expired) (fun _ => expired) (counted.mp zero)
      · rename_i positive
        exact iff_of_true ⟨right, fun included => absurd included other, fun _ runs => absurd expired runs⟩
          fun _ multiple => absurd (counted.mpr multiple) positive

/-- A group is left as it is to be, exactly under the condition. -/
theorem Outcome.checked_iff (outcome : r.Outcome flag o) (mode : r.type = isIn ∨ r.type = isEx) :
    r.Checked o ↔ (Sorted r.inSAL ∧ (flag = true → Few r.inSAL)) ∧
      (r.Decides → 2 ^ 16 ∣ (survivors r.inSAL).length → survivors r.inSAL = []) := by
  obtain ⟨r', moves, sal, listed, rfl⟩ := outcome
  by_cases right : Sorted r.inSAL ∧ (flag = true → Few r.inSAL)
  · rw [and_iff_right right]
    exact checked_iff_of_right moves (sal.trans (left_eq.mpr right)) listed mode fun s => mem_gone right
  · refine iff_of_false (fun checked => right ?_) fun both => right both.1
    cases kept : r'.checked with
    | none =>
        rw [kept] at checked
        exact all_expired checked.1
    | some r'' =>
        rw [kept] at checked
        exact left_eq.mp (sal.symm.trans ((checked_inSAL kept).symm.trans checked.1))

end MARecord

namespace MARecord

variable {flag : Bool} {rs : List MARecord} {os : List (Option MARecord)} {r : MARecord}

namespace Outcomes

theorem keys (outcomes : Outcomes flag rs os) {r' : MARecord} (inside : r' ∈ os.reduceOption) :
    r'.ma ∈ rs.map (·.ma) := by
  induction outcomes with
  | nil => cases inside
  | cons outcome later ih =>
      rename_i o rs os
      cases kept : o with
      | none =>
          rw [kept] at inside
          exact List.mem_cons_of_mem _ (ih inside)
      | some left =>
          rw [kept] at inside
          rcases List.mem_cons.mp inside with rfl | behind
          · rw [outcome.ma kept]
            exact List.mem_cons_self
          · exact List.mem_cons_of_mem _ (ih behind)

/-- What is found of each group -/
theorem find_first {o : Option MARecord} (distinct : KeyList.Distinct (·.ma) (r :: rs)) (outcome : r.Outcome flag o)
    (later : Outcomes (flag || expired r.inSAL) rs os) : KeyList.find (·.ma) r.ma (o :: os).reduceOption = o := by
  cases kept : o with
  | none =>
      apply KeyList.find_eq_none.mpr
      intro inside
      obtain ⟨r', member, same⟩ := List.mem_map.mp inside
      have again := later.keys member
      rw [same] at again
      exact (List.nodup_cons.mp distinct).1 again
  | some left => exact KeyList.find_cons_pos (outcome.ma kept)

theorem find_later {o : Option MARecord} {r' : MARecord} (outcome : r.Outcome flag o) (differs : r.ma ≠ r'.ma) :
    KeyList.find (·.ma) r'.ma (o :: os).reduceOption = KeyList.find (·.ma) r'.ma os.reduceOption := by
  cases kept : o with
  | none => rfl
  | some left =>
      apply KeyList.find_cons_neg
      rw [outcome.ma kept]
      exact differs

/-- All groups are left as they are to be, exactly under the condition. -/
theorem checked_iff (outcomes : Outcomes flag rs os) (distinct : KeyList.Distinct (·.ma) rs)
    (mode : ∀ r ∈ rs, r.type = isIn ∨ r.type = isEx) :
    (∀ r ∈ rs, r.Checked (KeyList.find (·.ma) r.ma os.reduceOption)) ↔ ((∀ r ∈ rs, Sorted r.inSAL) ∧
        (∀ r ∈ rs, r.Decides → 2 ^ 16 ∣ (survivors r.inSAL).length → survivors r.inSAL = []) ∧
        rs.Pairwise fun r later => (∃ s ∈ r.inSAL, s.sourceTimer = 0) → Few later.inSAL) ∧
      (flag = true → ∀ r ∈ rs, Few r.inSAL) := by
  induction outcomes with
  | nil => simp
  | cons outcome later ih =>
      rename_i flag r o rs os
      obtain ⟨absent, distinct'⟩ := List.nodup_cons.mp distinct
      have first := find_first distinct outcome later
      have others : (∀ r' ∈ rs, r'.Checked (KeyList.find (·.ma) r'.ma (o :: os).reduceOption)) ↔
          ∀ r' ∈ rs, r'.Checked (KeyList.find (·.ma) r'.ma os.reduceOption) := by
        refine forall₂_congr fun r' inside => ?_
        have differs : r.ma ≠ r'.ma := by
          intro same
          have member := List.mem_map_of_mem (f := (·.ma)) inside
          rw [← same] at member
          exact absent member
        rw [find_later outcome differs]
      have flagged : (flag || expired r.inSAL) = true ↔ flag = true ∨ ∃ s ∈ r.inSAL, s.sourceTimer = 0 := by
        simp [expired]
      rw [List.forall_mem_cons, first, others, outcome.checked_iff (mode r List.mem_cons_self),
        ih distinct' fun r' inside => mode r' (List.mem_cons_of_mem _ inside), flagged, List.forall_mem_cons,
        List.forall_mem_cons, List.forall_mem_cons, List.pairwise_cons]
      constructor
      · rintro ⟨⟨⟨sorted, few⟩, counted⟩, ⟨sorteds, counteds, pairs⟩, fews⟩
        exact ⟨⟨⟨sorted, sorteds⟩, ⟨counted, counteds⟩, fun later inside gone => fews (Or.inr gone) later inside, pairs⟩,
          fun set => ⟨few set, fews (Or.inl set)⟩⟩
      · rintro ⟨⟨⟨sorted, sorteds⟩, ⟨counted, counteds⟩, first, pairs⟩, fews⟩
        refine ⟨⟨⟨sorted, fun set => (fews set).1⟩, counted⟩, ⟨sorteds, counteds, pairs⟩, fun either => ?_⟩
        rcases either with set | gone
        · exact (fews set).2
        · exact fun later inside => first later inside gone

end Outcomes

end MARecord

namespace MLDv2Record

variable {t : MLDv2Record}

theorem checkTimer_returns (listed : t.Listed) (massqTable : Option MLDv2Record) : ∃ c os,
    (∃ n, ∀ rounds ≥ n, t.checkTimer massqTable rounds = some c) ∧ c.visited = t.mar.map (·.ma) ∧
      MARecord.Outcomes false t.mar os ∧ c.lsTable.mar = os.reduceOption := by
  obtain ⟨c, os, ⟨n, returns⟩, visited, outcomes, mar⟩ := TimerCheck.groups
    (c := ⟨t, massqTable, none, false, []⟩) (show t.mar = [] ++ t.mar from rfl) listed.distinct listed.records listed.mode rfl
  exact ⟨c, os, ⟨n, fun rounds enough => returns rounds enough rounds enough⟩, visited, outcomes, mar⟩

theorem searchMAR_eq_find {c : TimerCheck} {mar : List MARecord} (same : c.lsTable.mar = mar) (ma : Ipv6Addr) :
    c.lsTable.searchMAR ma = KeyList.find (·.ma) ma mar := by
  unfold searchMAR
  rw [same]

theorem TimersChecked.orderly {massqTable : Option MLDv2Record} (checks : t.TimersChecked massqTable)
    (listed : t.Listed) : t.Orderly := by
  obtain ⟨c, os, ⟨n, returns⟩, -, outcomes, mar⟩ := checkTimer_returns listed massqTable
  obtain ⟨n', checks⟩ := checks
  obtain ⟨c', returned, -, each, -⟩ := checks (max n n') (Nat.le_max_right n n')
  cases returned.symm.trans (returns _ (Nat.le_max_left n n'))
  have found : ∀ r ∈ t.mar, r.Checked (KeyList.find (·.ma) r.ma os.reduceOption) := by
    intro r inside
    rw [← searchMAR_eq_find mar]
    exact each r inside
  obtain ⟨⟨sorted, counted, pairs⟩, -⟩ := (outcomes.checked_iff listed.distinct listed.mode).mp found
  exact ⟨sorted, counted, pairs⟩

/-- A call of `MLDv2CheckTimer` visits each group once and leaves it as it is to be, exactly when the sources are in
order. -/
theorem checkTimer_iff (listed : t.Listed) (massqTable : Option MLDv2Record) :
    t.TimersChecked massqTable ↔ t.Orderly := by
  constructor
  · exact fun checks => checks.orderly listed
  · intro orderly
    obtain ⟨c, os, ⟨n, returns⟩, visited, outcomes, mar⟩ := checkTimer_returns listed massqTable
    have checked := (outcomes.checked_iff listed.distinct listed.mode).mpr
      ⟨⟨orderly.sources, orderly.counted, orderly.groups⟩, Bool.noConfusion⟩
    refine ⟨n, fun rounds enough => ⟨c, returns rounds enough, visited, fun r inside => ?_, fun r inside => ?_⟩⟩
    · rw [searchMAR_eq_find mar]
      exact checked r inside
    · rw [mar] at inside
      exact outcomes.keys inside

def exampleSource (low : BitVec 32) (sourceTimer : BitVec 32) : SARecord := .create ⟨0x20010db8, 0, 0, low⟩ sourceTimer

def exampleMAR (type : RecordType) (sal : List SARecord) : MARecord :=
  { MARecord.create ⟨0xff3e0000, 0, 0, 1⟩ type 0 with inSAL := sal, inNS := BitVec.ofNat 16 sal.length }

/-- A group in exclude mode with a source that runs and one whose timer is 0 behind it -/
def timedTable : MLDv2Record := ⟨1, [exampleMAR isEx [exampleSource 1 5, exampleSource 2 0]]⟩

/-- A group in include mode with the two in the other order -/
def staleTable : MLDv2Record := ⟨1, [exampleMAR isIn [exampleSource 2 0, exampleSource 1 5]]⟩

theorem listed_exampleMAR {type : RecordType} {sal : List SARecord} (mode : type = isIn ∨ type = isEx)
    (distinct : (sal.map (·.sa)).Nodup) : Listed ⟨1, [exampleMAR type sal]⟩ where
  distinct := List.nodup_singleton (exampleMAR type sal).ma
  records r inside := by
    cases List.mem_singleton.mp inside
    exact ⟨distinct, rfl⟩
  mode r inside := by
    cases List.mem_singleton.mp inside
    exact mode

theorem checkTimer_example : timedTable.TimersChecked none := by
  refine (checkTimer_iff (listed_exampleMAR (Or.inr rfl) (by decide)) none).mpr ⟨?_, ?_, List.pairwise_singleton _ _⟩
  · intro r inside
    cases List.mem_singleton.mp inside
    decide
  · intro r inside
    cases List.mem_singleton.mp inside
    decide

/-- The source that runs is removed with the other one, and with it the group. -/
theorem checkTimer_fails : (staleTable.checkTimer none 20).map (fun c => c.lsTable.mar.map (·.ma)) = some [] ∧
    ¬ staleTable.TimersChecked none := by
  refine ⟨by decide +kernel, fun checks => ?_⟩
  have orderly := checks.orderly (listed_exampleMAR (Or.inl rfl) (by decide))
  have first := List.pairwise_cons.mp (orderly.sources _ (List.mem_singleton.mpr rfl))
  have running := first.1 (exampleSource 1 5) (List.mem_singleton.mpr rfl) rfl
  cases running

end MLDv2Record

end IPv6Suite
