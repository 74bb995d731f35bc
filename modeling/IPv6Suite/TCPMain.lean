import IPv6Suite.IPvXAddress
import IPv6Suite.Lib.Index
import IPv6Suite.Lib.Machine
import IPv6Suite.TCPConnection

namespace IPv6Suite

open Lib IPvXAddress

/-- A `SockPair` of addresses that can be compared, so that a map tells apart whatever differs -/
structure SocketPair where
  localAddr : Address
  remoteAddr : Address
  localPort : BitVec 16
  remotePort : BitVec 16
deriving DecidableEq

def SocketPair.remote (p : SocketPair) : Address × BitVec 16 := (p.remoteAddr, p.remotePort)

/-- The null address -/
def noAddr : Address := .ipv4 0

/-- What `TCPMain` reads and writes of a connection, and what tells how it takes a message -/
structure ConnRecord where
  appGateIndex : Int
  connId : Int
  sockPair : SocketPair
  fsm : TcpState
  fork : Bool
deriving DecidableEq

namespace ConnRecord

/-- The constructor -/
def create (appGateIndex connId : Int) : ConnRecord :=
  ⟨appGateIndex, connId, ⟨noAddr, noAddr, -1, -1⟩, .init, false⟩

def appConnKey (c : ConnRecord) : Int × Int := (c.appGateIndex, c.connId)

def cloneListeningConnection (c : ConnRecord) : ConnRecord :=
  ⟨c.appGateIndex, c.connId, ⟨c.sockPair.localAddr, noAddr, c.sockPair.localPort, -1⟩, .listen, true⟩

/-- The assertions of `processTCPSegment` on the addresses and ports of a segment -/
def Expects (c : ConnRecord) (pair : SocketPair) : Prop :=
  (c.sockPair.localAddr ≠ noAddr →
      c.sockPair.localAddr = pair.localAddr ∧ c.sockPair.localPort = pair.localPort) ∧
    (c.sockPair.remoteAddr ≠ noAddr →
      c.sockPair.remoteAddr = pair.remoteAddr ∧ c.sockPair.remotePort = pair.remotePort)
deriving Decidable

theorem Expects.remote {c : ConnRecord} {pair : SocketPair} {r : Address × BitVec 16} (expects : c.Expects pair)
    (bound : c.sockPair.remote = r) (specified : r.1 ≠ noAddr) : pair.remote = r := by
  subst bound
  obtain ⟨addr, port⟩ := expects.2 specified
  exact Prod.ext addr.symm port.symm

end ConnRecord

/-- The connections, numbered as they are allocated, with the two maps that lead to them -/
structure TCPMain where
  conns : Nat → Option ConnRecord
  numConns : Nat
  tcpConnMap : SocketPair → Option Nat
  tcpAppConnMap : Int × Int → Option Nat
  nextConnId : Int
  nextEphemeralPort : BitVec 16

namespace TCPMain

def create (nextConnId : Int) : TCPMain :=
  ⟨fun _ => none, 0, fun _ => none, fun _ => none, nextConnId, 1024⟩

/-- A segment is looked for with its own socket pair first, then without the local address, without the remote
socket, and without both. -/
def findConnForSegment (m : TCPMain) (key : SocketPair) : Option Nat :=
  (m.tcpConnMap key).orElse fun _ =>
  (m.tcpConnMap { key with localAddr := noAddr }).orElse fun _ =>
  (m.tcpConnMap { key with remoteAddr := noAddr, remotePort := -1 }).orElse fun _ =>
  m.tcpConnMap { key with localAddr := noAddr, remoteAddr := noAddr, remotePort := -1 }

def findConnForApp (m : TCPMain) (key : Int × Int) : Option Nat := m.tcpAppConnMap key

def getEphemeralPort (m : TCPMain) : Exec (BitVec 16 × TCPMain) :=
  if m.nextEphemeralPort = 5000 then .error .fatalError
  else .ok (m.nextEphemeralPort, { m with nextEphemeralPort := m.nextEphemeralPort + 1 })

/-- An active open may leave its port to be assigned. -/
def portFor (m : TCPMain) (localPort : BitVec 16) : Exec (BitVec 16 × TCPMain) :=
  if localPort = -1 then m.getEphemeralPort else .ok (localPort, m)

/-- The connection is allocated with the number `numConns`. -/
def new (m : TCPMain) (c : ConnRecord) : TCPMain :=
  { m with conns := Function.update m.conns m.numConns (some c), numConns := m.numConns + 1 }

def get (m : TCPMain) (conn : Nat) : Exec ConnRecord := Exec.deref .useAfterFree (m.conns conn)

def put (m : TCPMain) (conn : Nat) (c : ConnRecord) : TCPMain :=
  { m with conns := Function.update m.conns conn (some c) }

def updateSockPair (m : TCPMain) (conn : Nat) (key : SocketPair) : Exec TCPMain := do
  let c ← m.get conn
  Exec.assert (∀ i ∈ m.tcpConnMap c.sockPair, i = conn)
  let tcpConnMap := Function.update m.tcpConnMap c.sockPair none
  return { m.put conn { c with sockPair := key } with tcpConnMap := Function.update tcpConnMap key (some conn) }

/-- `conn` gets a new `connId`, and `newConn` the old one. -/
def addForkedConnection (m : TCPMain) (conn newConn : Nat) (key : SocketPair) : Exec TCPMain := do
  let m ← m.updateSockPair conn key
  let m ← m.updateSockPair newConn (← m.get newConn).sockPair
  let c ← m.get conn
  let forked := { c with connId := m.nextConnId + 1 }
  let tcpAppConnMap := Function.update m.tcpAppConnMap c.appConnKey none
  let tcpAppConnMap := Function.update tcpAppConnMap forked.appConnKey (some conn)
  return { m.put conn forked with
    nextConnId := m.nextConnId + 1
    tcpAppConnMap := Function.update tcpAppConnMap (← m.get newConn).appConnKey (some newConn) }

def removeConnection (m : TCPMain) (conn : Nat) : Exec TCPMain := do
  let c ← m.get conn
  return { m with
    conns := Function.update m.conns conn none
    tcpAppConnMap := Function.update m.tcpAppConnMap c.appConnKey none
    tcpConnMap := Function.update m.tcpConnMap c.sockPair none }

/-- The state transition at the end of what a connection does, which is removed in CLOSED -/
def goTo (m : TCPMain) (conn : Nat) (next : TcpState) : Exec TCPMain := do
  let c ← m.get conn
  let m := m.put conn { c with fsm := next }
  if next = .closed then m.removeConnection conn else return m

/-- What arrives, with what the connection makes of it where that is not shown here: `syn` tells that a segment is a SYN
that is accepted in LISTEN or SYN_SENT, `next` is the state after any other one. -/
inductive Event where
  | getNewConnId
  | openActive (key : Int × Int) (pair : SocketPair)
  | openPassive (key : Int × Int) (localAddr : Address) (localPort : BitVec 16) (fork : Bool)
  | command (key : Int × Int) (next : TcpState)
  | segment (pair : SocketPair) (syn acked : Bool) (next : TcpState)
  | timeout (conn : Nat) (next : TcpState)

/-- The connection of a command, a new one if there is none yet -/
def connForApp (m : TCPMain) (key : Int × Int) : Nat × TCPMain :=
  match m.findConnForApp key with
  | some conn => (conn, m)
  | none => (m.numConns,
      { m.new (.create key.1 key.2) with
        tcpAppConnMap := Function.update m.tcpAppConnMap key (some m.numConns) })

/-- An OPEN is only allowed in INIT and LISTEN. -/
def opening (m : TCPMain) (conn : Nat) : Exec ConnRecord := do
  let c ← m.get conn
  if c.fsm = .init ∨ c.fsm = .listen then return c else .error .fatalError

def processOpenActive (m : TCPMain) (conn : Nat) (pair : SocketPair) : Exec TCPMain := do
  let _ ← m.opening conn
  if pair.remoteAddr = noAddr ∨ pair.remotePort = -1 then .error .fatalError
  else do
    let (localPort, m) ← m.portFor pair.localPort
    let m ← m.updateSockPair conn { pair with localPort }
    m.goTo conn .synSent

def processOpenPassive (m : TCPMain) (conn : Nat) (localAddr : Address) (localPort : BitVec 16) (fork : Bool) :
    Exec TCPMain := do
  let c ← m.opening conn
  if localPort = -1 then .error .fatalError
  else do
    let m ← (m.put conn { c with fork }).updateSockPair conn ⟨localAddr, noAddr, localPort, -1⟩
    m.goTo conn .listen

def processTCPSegment (m : TCPMain) (conn : Nat) (pair : SocketPair) (syn acked : Bool) (next : TcpState) :
    Exec TCPMain := do
  let c ← m.get conn
  Exec.assert (c.Expects pair)
  if c.fsm = .listen ∧ syn then
    let m ← if c.fork then (m.new c.cloneListeningConnection).addForkedConnection conn m.numConns pair
      else m.updateSockPair conn pair
    m.goTo conn .synRcvd
  else if c.fsm = .synSent ∧ syn then
    let m ← m.updateSockPair conn pair
    m.goTo conn (if acked then .established else .synRcvd)
  else m.goTo conn next

/-- `handleMessage`, and an application that gets the number of a connection it is going to open -/
def step (m : TCPMain) : Event → Exec TCPMain
  | .getNewConnId => .ok { m with nextConnId := m.nextConnId + 1 }
  | .openActive key pair => (m.connForApp key).2.processOpenActive (m.connForApp key).1 pair
  | .openPassive key localAddr localPort fork =>
      (m.connForApp key).2.processOpenPassive (m.connForApp key).1 localAddr localPort fork
  | .command key next => do
      let (conn, m) := m.connForApp key
      if (← m.get conn).fsm = .init then .error .fatalError else m.goTo conn next
  | .segment pair syn acked next =>
      match m.findConnForSegment pair with
      | none => .ok m
      | some conn => m.processTCPSegment conn pair syn acked next
  | .timeout conn next => m.goTo conn next

/-- Applications use numbers they were given, and a connection does not go back to INIT. -/
def Admits (m : TCPMain) : Event → Prop
  | .getNewConnId => True
  | .openActive key _ => key.2 ≤ m.nextConnId
  | .openPassive key _ _ _ => key.2 ≤ m.nextConnId
  | .command _ next => next ≠ .init
  | .segment _ _ _ next => next ≠ .init
  | .timeout _ next => next ≠ .init

/-- The connection that gets another socket pair, with the pair -/
def takes (m : TCPMain) : Event → Option (Nat × SocketPair)
  | .openActive key pair => some ((m.connForApp key).1,
      { pair with localPort := if pair.localPort = -1 then m.nextEphemeralPort else pair.localPort })
  | .openPassive key localAddr localPort _ => some ((m.connForApp key).1, ⟨localAddr, noAddr, localPort, -1⟩)
  | .segment pair true _ _ => (m.findConnForSegment pair).bind fun conn => (m.conns conn).bind fun c =>
      if c.fsm = .listen ∨ c.fsm = .synSent then some (conn, pair) else none
  | _ => none

/-- No other connection has the pair. -/
def Free (m : TCPMain) (e : Event) : Prop := ∀ t ∈ m.takes e, ∀ i ∈ m.tcpConnMap t.2, i = t.1
deriving Decidable

/-- `tcpConnMap` leads from the socket pair of each connection to it, and from no other pair. -/
def Dispatches (m : TCPMain) : Prop := Index ConnRecord.sockPair m.conns m.tcpConnMap

/-- What holds in every run: `tcpAppConnMap` leads from the key of each connection to it. -/
structure Kept (m : TCPMain) : Prop where
  app : Index ConnRecord.appConnKey m.conns m.tcpAppConnMap
  numbered : ∀ i, m.numConns ≤ i → m.conns i = none
  known : ∀ i c, m.conns i = some c → c.fsm ≠ .init ∧ c.connId ≤ m.nextConnId

/-- One connection becomes `o`, in both maps as well. -/
structure Change (m : TCPMain) (i : Nat) (o : Option ConnRecord) (m' : TCPMain) : Prop where
  conns : m'.conns = Function.update m.conns i o
  sock : m.Dispatches → Index.Follows ConnRecord.sockPair m.conns i o m.tcpConnMap m'.tcpConnMap
  app : Index.Follows ConnRecord.appConnKey m.conns i o m.tcpAppConnMap m'.tcpAppConnMap
  numbered : i < m'.numConns ∧ m.numConns ≤ m'.numConns
  ids : m.nextConnId ≤ m'.nextConnId
  known : ∀ c ∈ o, c.fsm ≠ .init ∧ c.connId ≤ m'.nextConnId ∧ ∀ j ∈ m.tcpAppConnMap c.appConnKey, j = i

variable {m m₀ m' : TCPMain} {i : Nat} {o : Option ConnRecord} {c : ConnRecord} {e : Event} {next : TcpState}
  {pair : SocketPair}

theorem Change.kept (change : Change m i o m') (kept : m.Kept) : m'.Kept where
  app := by
    rw [change.conns]
    exact kept.app.update change.app fun c same => (change.known c same).2.2
  numbered := by
    intro j above
    rw [change.conns, Function.update_of_ne (by have := change.numbered; omega)]
    exact kept.numbered j (Nat.le_trans change.numbered.2 above)
  known := by
    intro j c stored
    rw [change.conns, Function.update_apply] at stored
    split at stored
    · exact ⟨(change.known c stored).1, (change.known c stored).2.1⟩
    · obtain ⟨open', old⟩ := kept.known j c stored
      exact ⟨open', Int.le_trans old change.ids⟩

theorem Change.dispatches_iff (change : Change m i o m') (dispatches : m.Dispatches) :
    m'.Dispatches ↔ ∀ c ∈ o, ∀ j ∈ m.tcpConnMap c.sockPair, j = i := by
  unfold Dispatches
  rw [change.conns]
  exact dispatches.update_iff (change.sock dispatches)

theorem Kept.below (kept : m.Kept) (stored : m.conns i = some c) : i < m.numConns := by
  by_contra above
  rw [kept.numbered i (Nat.le_of_not_lt above)] at stored
  cases stored

theorem Kept.own (kept : m.Kept) (stored : m.conns i = some c) : ∀ j ∈ m.tcpAppConnMap c.appConnKey, j = i := by
  intro j found
  rw [kept.app.find stored] at found
  exact (Option.some.inj found).symm

theorem get_eq_ok : m.get i = .ok c ↔ m.conns i = some c := deref_eq_ok _ _ _

theorem updateSockPair_eq (stored : m.conns i = some c) (updates : m.updateSockPair i pair = .ok m') :
    (∀ j ∈ m.tcpConnMap c.sockPair, j = i) ∧ m' = { m with
      conns := Function.update m.conns i (some { c with sockPair := pair })
      tcpConnMap := Function.update (Function.update m.tcpConnMap c.sockPair none) pair (some i) } := by
  obtain ⟨c', found, updates⟩ := bind_eq_ok.mp updates
  cases stored.symm.trans (get_eq_ok.mp found)
  obtain ⟨_, own, updates⟩ := bind_eq_ok.mp updates
  cases updates
  exact ⟨(assert_eq_ok _ _).mp own, rfl⟩

theorem goTo_alive (stored : m.conns i = some c) (alive : next ≠ .closed) :
    m.goTo i next = .ok (m.put i { c with fsm := next }) := by
  unfold goTo
  rw [get_eq_ok.mpr stored, ok_bind]
  exact if_neg alive

/-- A connection that is about to get another socket pair, perhaps a new one -/
structure Prepared (m : TCPMain) (i : Nat) (c : ConnRecord) (m₀ : TCPMain) : Prop where
  conns : m₀.conns = Function.update m.conns i (some c)
  sock : m₀.tcpConnMap = m.tcpConnMap
  app : Index.Follows ConnRecord.appConnKey m.conns i (some c) m.tcpAppConnMap m₀.tcpAppConnMap
  numbered : i < m₀.numConns ∧ m.numConns ≤ m₀.numConns
  ids : m.nextConnId ≤ m₀.nextConnId
  known : c.connId ≤ m₀.nextConnId ∧ ∀ j ∈ m.tcpAppConnMap c.appConnKey, j = i
  pair : m.conns i = none ∨ (m.conns i).map ConnRecord.sockPair = some c.sockPair

theorem Prepared.refl (kept : m.Kept) (stored : m.conns i = some c) : Prepared m i c m where
  conns := by rw [← stored, Function.update_eq_self]
  sock := rfl
  app := .keep kept.app stored rfl
  numbered := ⟨kept.below stored, Nat.le_refl _⟩
  ids := Int.le_refl _
  known := ⟨(kept.known i c stored).2, kept.own stored⟩
  pair := Or.inr (by rw [stored]; rfl)

theorem Prepared.moves (prepared : Prepared m i c m₀) (open' : next ≠ .init) (alive : next ≠ .closed)
    (done : (m₀.updateSockPair i pair >>= fun m => m.goTo i next) = .ok m') :
    Change m i (some { c with sockPair := pair, fsm := next }) m' := by
  obtain ⟨m₁, updates, goes⟩ := bind_eq_ok.mp done
  have stored : m₀.conns i = some c := by
    rw [prepared.conns]
    exact Function.update_self ..
  obtain ⟨own, rfl⟩ := updateSockPair_eq stored updates
  rw [prepared.sock] at own
  rw [goTo_alive (Function.update_self ..) alive] at goes
  cases goes
  refine ⟨?_, fun dispatches => ?_, prepared.app, prepared.numbered, prepared.ids, ?_⟩
  · unfold put
    dsimp only
    rw [prepared.conns, Function.update_idem, Function.update_idem]
  · unfold put
    dsimp only
    rw [prepared.sock]
    rcases prepared.pair with absent | same
    · -- the pair of a new connection is in no map, since the assertion holds
      have unused : m.tcpConnMap c.sockPair = none := by
        cases entry : m.tcpConnMap c.sockPair with
        | none => rfl
        | some j =>
            have there := (dispatches _ _).mp entry
            rw [own j entry, absent] at there
            cases there
      rw [← unused, Function.update_eq_self]
      exact .add _ absent
    · obtain ⟨c', stored, equal⟩ := Option.map_eq_some_iff.mp same
      rw [← equal]
      exact .change _ stored
  · intro c' same
    cases same
    exact ⟨open', prepared.known⟩

/-- A connection has the socket pair it had, or the one it takes. -/
def KeepsPairs (m : TCPMain) (e : Event) (m' : TCPMain) : Prop :=
  m.numConns ≤ m'.numConns ∧ ∀ i c, m'.conns i = some c → i < m.numConns →
    (m.conns i).map ConnRecord.sockPair = some c.sockPair ∨ m.takes e = some (i, c.sockPair)

/-- What a step keeps, and when segments are dispatched right after it -/
def Settles (m : TCPMain) (e : Event) (m' : TCPMain) : Prop :=
  m'.Kept ∧ (m.Dispatches → (m'.Dispatches ↔ m.Free e)) ∧ m.KeepsPairs e m'

theorem Change.keepsPairs (change : Change m i o m') (own : ∀ c ∈ o,
    (m.conns i).map ConnRecord.sockPair = some c.sockPair ∨ m.takes e = some (i, c.sockPair)) : m.KeepsPairs e m' := by
  refine ⟨change.numbered.2, fun j c stored _ => ?_⟩
  rw [change.conns, Function.update_apply] at stored
  split at stored
  · rename_i here
    rw [here]
    exact own c stored
  · rw [stored]
    exact Or.inl rfl

theorem free_iff (takes : m.takes e = some (i, pair)) : m.Free e ↔ ∀ j ∈ m.tcpConnMap pair, j = i := by
  unfold Free
  rw [takes]
  simp

theorem Change.settles (change : Change m i (some c) m') (kept : m.Kept)
    (takes : m.takes e = some (i, c.sockPair)) : m.Settles e m' := by
  refine ⟨change.kept kept, fun dispatches => (change.dispatches_iff dispatches).trans ?_,
    change.keepsPairs fun c' same => Or.inr ?_⟩
  · rw [free_iff takes]
    simp
  · cases same
    exact takes

/-- The connection that an application opens -/
def opened (m : TCPMain) : Event → Option Nat
  | .openActive key _ | .openPassive key _ _ _ => some (m.connForApp key).1
  | _ => none

/-- `i` has been allocated, and as long as it lives its remote socket is `r`. -/
def Bound (i : Nat) (r : Address × BitVec 16) (m : TCPMain) : Prop :=
  i < m.numConns ∧ ∀ c, m.conns i = some c → c.sockPair.remote = r

end TCPMain

end IPv6Suite
