import IPv6Suite.IPAddress
import IPv6Suite.Lib.Earliest
import IPv6Suite.Lib.Machine

namespace IPv6Suite

open Lib

structure IPv4InterfaceEntry where
  name : String
  outputPort : Int
deriving DecidableEq

structure RoutingEntry where
  host : IPAddressBytes
  netmask : IPAddressBytes
  gateway : IPAddressBytes
  interfaceName : String
  interfacePtr : Option IPv4InterfaceEntry := none
deriving DecidableEq

/-- The routing table of a node. The entries stand there with their pointers; `next` is the one of the next `new`. -/
structure RoutingTable where
  ift : List IPv4InterfaceEntry
  routes : List (Nat × RoutingEntry) := []
  multicastRoutes : List (Nat × RoutingEntry) := []
  next : Nat := 0

namespace RoutingTable

def interfaceByName (rt : RoutingTable) (name : String) : Option IPv4InterfaceEntry :=
  rt.ift.find? fun ie => ie.name = name

/-- The entry with the longest netmask so far is kept with its netmask. -/
def selectBestMatchingRoute (rt : RoutingTable) (dest : IPAddressBytes) : Option (Nat × RoutingEntry) :=
  (rt.routes.foldl (fun best e =>
    if IPAddressBytes.maskedAddrAreEqual dest e.2.host e.2.netmask = true ∧
        (best.1.isNone = true ∨ best.2 < e.2.netmask.getInt.toNat) then
      (some e, e.2.netmask.getInt.toNat)
    else best) ((none : Option (Nat × RoutingEntry)), 0)).1

def outputPortNo (rt : RoutingTable) (dest : IPAddressBytes) : Exec Int :=
  match rt.selectBestMatchingRoute dest with
  | none => pure (-1)
  | some e => do
      let interface ← Exec.deref .nullDeref e.2.interfacePtr
      return interface.outputPort

def nextGatewayAddress (rt : RoutingTable) (dest : IPAddressBytes) : IPAddressBytes :=
  match rt.selectBestMatchingRoute dest with
  | none => .ofBytes 0 0 0 0
  | some e => e.2.gateway

def addRoutingEntry (rt : RoutingTable) (entry : RoutingEntry) : Exec RoutingTable :=
  if (entry.host.isNull ∨ entry.netmask.isNull) ∧ (¬ entry.host.isNull ∨ ¬ entry.netmask.isNull) then
    .error .fatalError
  else do
    let interface ← Exec.deref .fatalError (rt.interfaceByName entry.interfaceName)
    let entry := { entry with interfacePtr := some interface }
    if ¬ entry.host.isMulticast then
      return { rt with routes := rt.routes ++ [(rt.next, entry)], next := rt.next + 1 }
    else
      return { rt with multicastRoutes := rt.multicastRoutes ++ [(rt.next, entry)], next := rt.next + 1 }

def deleteRoutingEntry (rt : RoutingTable) (entry : Nat) : Bool × RoutingTable :=
  if rt.routes.any (·.1 = entry) then (true, { rt with routes := rt.routes.eraseP (·.1 = entry) })
  else if rt.multicastRoutes.any (·.1 = entry) then
    (true, { rt with multicastRoutes := rt.multicastRoutes.eraseP (·.1 = entry) })
  else (false, rt)

inductive Operation where
  | addRoutingEntry (entry : RoutingEntry)
  | deleteRoutingEntry (entry : Nat)

def step (rt : RoutingTable) : Operation → Exec RoutingTable
  | .addRoutingEntry entry => rt.addRoutingEntry entry
  | .deleteRoutingEntry entry => pure (rt.deleteRoutingEntry entry).2

def entries (rt : RoutingTable) : List (Nat × RoutingEntry) := rt.routes ++ rt.multicastRoutes

def unicastEntries (rt : RoutingTable) : List (Nat × RoutingEntry) := rt.entries.filter fun e => ¬ e.2.host.isMulticast

variable {rt rt' : RoutingTable}

/-- A netmask is a number of ones and zeros behind them. -/
def Contiguous (netmask : IPAddressBytes) : Prop := ∃ n ≤ 32, netmask.IsNetmask n

/-- The number of ones at the beginning of a netmask -/
def prefixLength (netmask : IPAddressBytes) : Nat :=
  ((List.range 32).takeWhile fun i => netmask.getInt.getMsbD i).length

theorem prefixLength_netmask {m : IPAddressBytes} {n : Nat} (short : n ≤ 32) (netmask : m.IsNetmask n) :
    prefixLength m = n := by
  have split : List.range 32 = List.range n ++ (List.range (32 - n)).map (n + ·) := by
    rw [← List.range_add, Nat.add_sub_cancel' short]
  have ones : ∀ i ∈ List.range n, m.getInt.getMsbD i = true := by
    intro i inside
    rw [List.mem_range] at inside
    rw [netmask i (by omega), decide_eq_true inside]
  unfold prefixLength
  rw [split, List.takeWhile_append_of_pos ones]
  cases rest : 32 - n with
  | zero => simp
  | succ more =>
      have zero : m.getInt.getMsbD n = false := by
        rw [netmask n (by omega)]
        simp
      rw [List.range_succ_eq_map, List.map_cons, List.takeWhile_cons_of_neg (by simp [zero])]
      simp

theorem addRoutingEntry_eq_ok {entry : RoutingEntry} (added : rt.addRoutingEntry entry = .ok rt') :
    ∃ interface, rt.interfaceByName entry.interfaceName = some interface ∧ rt'.ift = rt.ift ∧ rt'.next = rt.next + 1 ∧
      (entry.host.isMulticast = false ∧ rt'.multicastRoutes = rt.multicastRoutes ∧
          rt'.routes = rt.routes ++ [(rt.next, { entry with interfacePtr := some interface })] ∨
        entry.host.isMulticast = true ∧ rt'.routes = rt.routes ∧
          rt'.multicastRoutes = rt.multicastRoutes ++ [(rt.next, { entry with interfacePtr := some interface })]) := by
  unfold addRoutingEntry at added
  split at added
  · cases added
  · obtain ⟨interface, found, added⟩ := bind_eq_ok.mp added
    refine ⟨interface, (deref_eq_ok _ _ _).mp found, ?_⟩
    dsimp only at added
    split at added
    · rename_i unicast
      cases added
      exact ⟨rfl, rfl, .inl ⟨by simpa using unicast, rfl, rfl⟩⟩
    · rename_i multicast
      cases added
      exact ⟨rfl, rfl, .inr ⟨not_not.mp multicast, rfl, rfl⟩⟩

theorem deleteRoutingEntry_sublist (rt : RoutingTable) (entry : Nat) :
    (rt.deleteRoutingEntry entry).2.routes.Sublist rt.routes ∧
      (rt.deleteRoutingEntry entry).2.multicastRoutes.Sublist rt.multicastRoutes ∧
        (rt.deleteRoutingEntry entry).2.ift = rt.ift ∧ (rt.deleteRoutingEntry entry).2.next = rt.next := by
  unfold deleteRoutingEntry
  split
  · exact ⟨List.eraseP_sublist, List.Sublist.refl _, rfl, rfl⟩
  split
  · exact ⟨List.Sublist.refl _, List.eraseP_sublist, rfl, rfl⟩
  · exact ⟨List.Sublist.refl _, List.Sublist.refl _, rfl, rfl⟩

/-- What holds of every table whose entries have been added with contiguous netmasks. -/
structure Kept (rt : RoutingTable) : Prop where
  ordered : rt.routes.Pairwise fun p q => p.1 < q.1
  fresh : ∀ e ∈ rt.entries, e.1 < rt.next
  unicast : ∀ e ∈ rt.routes, e.2.host.isMulticast = false
  multicast : ∀ e ∈ rt.multicastRoutes, e.2.host.isMulticast = true
  interface : ∀ e ∈ rt.entries, ∃ interface, e.2.interfacePtr = some interface ∧
    rt.interfaceByName e.2.interfaceName = some interface
  contiguous : ∀ e ∈ rt.entries, Contiguous e.2.netmask

theorem Kept.create (ift : List IPv4InterfaceEntry) : Kept { ift := ift } := by
  constructor <;> simp [entries]

/-- The netmask of an entry that is added is contiguous. -/
def Operation.Contiguous : Operation → Prop
  | .addRoutingEntry entry => RoutingTable.Contiguous entry.netmask
  | .deleteRoutingEntry _ => True

theorem Kept.addRoutingEntry {entry : RoutingEntry} (kept : rt.Kept) (contiguous : Contiguous entry.netmask)
    (added : rt.addRoutingEntry entry = .ok rt') : rt'.Kept := by
  obtain ⟨interface, found, ift, next, place⟩ := addRoutingEntry_eq_ok added
  have names (name : String) : rt'.interfaceByName name = rt.interfaceByName name := by
    rw [interfaceByName, ift, interfaceByName]
  have member (e : Nat × RoutingEntry) (inside : e ∈ rt'.entries) :
      e ∈ rt.entries ∨ e = (rt.next, { entry with interfacePtr := some interface }) := by
    unfold entries at inside ⊢
    rcases place with ⟨-, other, more⟩ | ⟨-, other, more⟩
    · rw [other, more] at inside
      simp only [List.mem_append, List.mem_singleton] at inside ⊢
      tauto
    · rw [other, more] at inside
      simp only [List.mem_append, List.mem_singleton] at inside ⊢
      tauto
  have inRoutes (e : Nat × RoutingEntry) (inside : e ∈ rt.routes) : e.1 < rt.next :=
    kept.fresh e (List.mem_append_left _ inside)
  refine ⟨?_, ?_, ?_, ?_, ?_, ?_⟩
  · rcases place with ⟨-, -, more⟩ | ⟨-, same, -⟩
    · rw [more, List.pairwise_append]
      refine ⟨kept.ordered, List.pairwise_singleton _ _, fun e inside e' last => ?_⟩
      rw [List.mem_singleton.mp last]
      exact inRoutes e inside
    · rw [same]
      exact kept.ordered
  · intro e inside
    rw [next]
    rcases member e inside with old | rfl
    · exact Nat.lt_succ_of_lt (kept.fresh e old)
    · exact Nat.lt_succ_self _
  · rcases place with ⟨unicast, -, more⟩ | ⟨-, same, -⟩
    · rw [more]
      intro e inside
      rcases List.mem_append.mp inside with old | last
      · exact kept.unicast e old
      · rw [List.mem_singleton.mp last]
        exact unicast
    · rw [same]
      exact kept.unicast
  · rcases place with ⟨-, same, -⟩ | ⟨multicast, -, more⟩
    · rw [same]
      exact kept.multicast
    · rw [more]
      intro e inside
      rcases List.mem_append.mp inside with old | last
      · exact kept.multicast e old
      · rw [List.mem_singleton.mp last]
        exact multicast
  · intro e inside
    rw [names]
    rcases member e inside with old | rfl
    · exact kept.interface e old
    · exact ⟨interface, rfl, found⟩
  · intro e inside
    rcases member e inside with old | rfl
    · exact kept.contiguous e old
    · exact contiguous

theorem Kept.deleteRoutingEntry (kept : rt.Kept) (entry : Nat) : (rt.deleteRoutingEntry entry).2.Kept := by
  obtain ⟨routes, multicastRoutes, ift, next⟩ := rt.deleteRoutingEntry_sublist entry
  have member := (routes.append multicastRoutes).subset
  have names (name : String) : (rt.deleteRoutingEntry entry).2.interfaceByName name = rt.interfaceByName name := by
    rw [interfaceByName, ift, interfaceByName]
  refine ⟨kept.ordered.sublist routes, fun e inside => ?_, fun e inside => kept.unicast e (routes.subset inside),
    fun e inside => kept.multicast e (multicastRoutes.subset inside), fun e inside => ?_,
    fun e inside => kept.contiguous e (member inside)⟩
  · rw [next]
    exact kept.fresh e (member inside)
  · rw [names]
    exact kept.interface e (member inside)

theorem Kept.step {op : Operation} (kept : rt.Kept) (contiguous : op.Contiguous) (steps : rt.step op = .ok rt') :
    rt'.Kept := by
  cases op with
  | addRoutingEntry entry => exact kept.addRoutingEntry contiguous steps
  | deleteRoutingEntry entry =>
      cases steps
      exact kept.deleteRoutingEntry entry

theorem Kept.of_runs {ift : List IPv4InterfaceEntry} {ops : List Operation}
    (runs : Runs RoutingTable.step (fun _ op => op.Contiguous) { ift := ift } ops rt) : rt.Kept :=
  runs.invariant Kept (fun _ _ _ kept contiguous steps => kept.step contiguous steps) (.create ift)

theorem Kept.unicastEntries_eq (kept : rt.Kept) : rt.unicastEntries = rt.routes := by
  unfold unicastEntries entries
  rw [List.filter_append, List.filter_eq_self.mpr (fun e inside => by simp [kept.unicast e inside]),
    List.filter_eq_nil_iff.mpr (fun e inside => by simp [kept.multicast e inside]), List.append_nil]

/-- The first bits of the destination are those of the entry. -/
def Matches (dest : IPAddressBytes) (e : Nat × RoutingEntry) : Prop :=
  AgreeFirst (prefixLength e.2.netmask) dest.getInt e.2.host.getInt

structure BestRoute (entries : List (Nat × RoutingEntry)) (dest : IPAddressBytes) (best : Nat × RoutingEntry) :
    Prop where
  mem : best ∈ entries
  matchesDest : Matches dest best
  longest : ∀ e ∈ entries, Matches dest e → prefixLength e.2.netmask ≤ prefixLength best.2.netmask
  first : ∀ e ∈ entries, Matches dest e → prefixLength e.2.netmask = prefixLength best.2.netmask → best.1 ≤ e.1

def Selects (rt : RoutingTable) (entries : List (Nat × RoutingEntry)) (dest : IPAddressBytes) : Prop :=
  match rt.selectBestMatchingRoute dest with
  | none => (∀ e ∈ entries, ¬ Matches dest e) ∧ rt.outputPortNo dest = .ok (-1) ∧
      rt.nextGatewayAddress dest = .ofBytes 0 0 0 0
  | some best => BestRoute entries dest best ∧ rt.nextGatewayAddress dest = best.2.gateway ∧
      ∃ interface, rt.interfaceByName best.2.interfaceName = some interface ∧
        rt.outputPortNo dest = .ok interface.outputPort

theorem selectBestMatchingRoute_eq (rt : RoutingTable) (dest : IPAddressBytes) :
    rt.selectBestMatchingRoute dest =
      (firstGreatest (fun e => IPAddressBytes.maskedAddrAreEqual dest e.2.host e.2.netmask)
        (fun e => e.2.netmask.getInt.toNat) 0 rt.routes).1 := rfl

theorem masked_iff {dest : IPAddressBytes} {e : Nat × RoutingEntry} (contiguous : Contiguous e.2.netmask) :
    IPAddressBytes.maskedAddrAreEqual dest e.2.host e.2.netmask = true ↔ Matches dest e := by
  obtain ⟨n, short, netmask⟩ := contiguous
  rw [IPAddressBytes.maskedAddrAreEqual_agree netmask, Matches, prefixLength_netmask short netmask]

theorem netmask_lt_iff {m m' : IPAddressBytes} (contiguous : Contiguous m) (contiguous' : Contiguous m') :
    m.getInt.toNat < m'.getInt.toNat ↔ prefixLength m < prefixLength m' := by
  obtain ⟨n, short, netmask⟩ := contiguous
  obtain ⟨k, short', netmask'⟩ := contiguous'
  rw [prefixLength_netmask short netmask, prefixLength_netmask short' netmask', ← BitVec.lt_def]
  exact netmask.lt_iff short netmask' short'

theorem Kept.selects (kept : rt.Kept) (dest : IPAddressBytes) : rt.Selects rt.routes dest := by
  have inside (e : Nat × RoutingEntry) (member : e ∈ rt.routes) : e ∈ rt.entries := List.mem_append_left _ member
  have contiguous (e : Nat × RoutingEntry) (member : e ∈ rt.routes) := kept.contiguous e (inside e member)
  unfold Selects outputPortNo nextGatewayAddress
  cases selected : rt.selectBestMatchingRoute dest with
  | none =>
      rw [selectBestMatchingRoute_eq, firstGreatest_eq_none] at selected
      refine ⟨fun e member fits => ?_, rfl, rfl⟩
      have unfit := selected e member
      rw [(masked_iff (contiguous e member)).mpr fits] at unfit
      cases unfit
  | some best =>
      rw [selectBestMatchingRoute_eq] at selected
      obtain ⟨-, fits, front, back, split, before, behind⟩ := firstGreatest_eq_some selected
      have member : best ∈ rt.routes := by
        rw [split]
        exact List.mem_append_right _ List.mem_cons_self
      have order := kept.ordered
      rw [split, List.pairwise_append, List.pairwise_cons] at order
      have place (e : Nat × RoutingEntry) (inRoutes : e ∈ rt.routes) : e ∈ front ∨ e = best ∨ e ∈ back := by
        rw [split] at inRoutes
        simpa using inRoutes
      obtain ⟨interface, pointer, found⟩ := kept.interface best (inside best member)
      refine ⟨⟨member, (masked_iff (contiguous best member)).mp fits, ?_, ?_⟩, rfl, interface, found, ?_⟩
      · intro e inRoutes fitsToo
        have wanted := (masked_iff (contiguous e inRoutes)).mpr fitsToo
        rw [← Nat.not_lt, ← netmask_lt_iff (contiguous best member) (contiguous e inRoutes), Nat.not_lt]
        rcases place e inRoutes with early | rfl | late
        · exact Nat.le_of_lt (before e early wanted)
        · exact Nat.le_refl _
        · exact behind e late wanted
      · intro e inRoutes fitsToo same
        have wanted := (masked_iff (contiguous e inRoutes)).mpr fitsToo
        rcases place e inRoutes with early | rfl | late
        · have shorter := (netmask_lt_iff (contiguous e inRoutes) (contiguous best member)).mp (before e early wanted)
          omega
        · exact Nat.le_refl _
        · exact Nat.le_of_lt (order.2.1.1 e late)
      · show (do
          let interface ← Exec.deref .nullDeref best.2.interfacePtr
          return interface.outputPort : Exec Int) = _
        rw [pointer]
        rfl

/-- In every table of contiguous netmasks the best of the unicast entries is selected. -/
theorem selects_unicast {ift : List IPv4InterfaceEntry} {ops : List Operation}
    (runs : Runs RoutingTable.step (fun _ op => op.Contiguous) { ift := ift } ops rt) (dest : IPAddressBytes) :
    rt.Selects rt.unicastEntries dest := by
  have kept := Kept.of_runs runs
  rw [kept.unicastEntries_eq]
  exact kept.selects dest

def exampleInterfaces : List IPv4InterfaceEntry := [⟨"ppp0", 0⟩, ⟨"eth0", 1⟩]

def exampleNetwork : RoutingEntry where
  host := .ofBytes 192 168 0 0
  netmask := .ofBytes 255 255 0 0
  gateway := .ofBytes 0 0 0 0
  interfaceName := "eth0"

def exampleDefault : RoutingEntry where
  host := .ofBytes 0 0 0 0
  netmask := .ofBytes 0 0 0 0
  gateway := .ofBytes 10 0 0 1
  interfaceName := "ppp0"

def exampleGroups : RoutingEntry where
  host := .ofBytes 224 0 0 0
  netmask := .ofBytes 240 0 0 0
  gateway := .ofBytes 0 0 0 0
  interfaceName := "eth0"

theorem selects_unicast_example : ∃ rt : RoutingTable,
    run step { ift := exampleInterfaces } [.addRoutingEntry exampleDefault, .addRoutingEntry exampleNetwork] = .ok rt ∧
      rt.Selects rt.unicastEntries (.ofBytes 192 168 7 9) := by
  refine ⟨_, rfl, @selects_unicast _ exampleInterfaces
    [.addRoutingEntry exampleDefault, .addRoutingEntry exampleNetwork]
      (.cons ?_ rfl (.cons ?_ rfl (.nil _))) _⟩
  · exact ⟨0, by decide, IPAddressBytes.isNetmask_ofInt 0⟩
  · exact ⟨16, by decide, IPAddressBytes.isNetmask_ofInt 16⟩

def groupsTable : RoutingTable where
  ift := exampleInterfaces
  multicastRoutes := [(0, { exampleGroups with interfacePtr := some ⟨"eth0", 1⟩ })]
  next := 1

/-- The entry for multicast groups matches, but is not among those that are searched. -/
theorem groups_not_selected :
    Runs step (fun _ op => op.Contiguous) { ift := exampleInterfaces } [.addRoutingEntry exampleGroups] groupsTable ∧
      groupsTable.selectBestMatchingRoute (.ofBytes 224 0 0 5) = none ∧
        ¬ groupsTable.Selects groupsTable.entries (.ofBytes 224 0 0 5) := by
  have netmask : exampleGroups.netmask = IPAddressBytes.ofInt (~~~ (0xFFFFFFFF#32 >>> 4)) := by decide
  have contiguous : Contiguous exampleGroups.netmask := by
    rw [netmask]
    exact ⟨4, by decide, IPAddressBytes.isNetmask_ofInt 4⟩
  have fits : Matches (.ofBytes 224 0 0 5) (0, exampleGroups) := by
    rw [← masked_iff (e := (0, exampleGroups)) contiguous]
    decide
  have none : groupsTable.selectBestMatchingRoute (.ofBytes 224 0 0 5) = none := rfl
  refine ⟨.cons contiguous rfl (.nil _), none, fun selects => ?_⟩
  unfold Selects at selects
  rw [none] at selects
  exact selects.1 _ List.mem_cons_self fits

end RoutingTable

end IPv6Suite
