import IPv6Suite.NonceGeneration
import IPv6Suite.UpdateRate

namespace IPv6Suite

open Lib

namespace TIRetransTmr

/-- `cancel()`, which asserts that the timer is scheduled -/
def cancel (tmr : TIRetransTmr) : Exec TIRetransTmr := do
  Exec.assert tmr.isScheduled
  return { tmr with scheduled := none }

def reschedule (tmr : TIRetransTmr) (arrivalTime : ℚ) : TIRetransTmr :=
  { tmr with scheduled := some arrivalTime }

/-- Another callback is bound; a schedule stays as it is. -/
def bind (tmr : TIRetransTmr) (dest coa : Ipv6Addr) (timestamp : ℚ) : TIRetransTmr :=
  { tmr with dest, coa, timestamp }

end TIRetransTmr

namespace BuEntry

/-- `increaseHotiTimeout` and `increaseCotiTimeout`: 1, 2, 4, 16, 256 and so on -/
def increaseTimeout (timeout : ℚ) : ℚ :=
  if timeout = 0 then initialBindackTimeout
  else if timeout = initialBindackTimeout then timeout * 2
  else if timeout ≠ maxBindackTimeout then timeout ^ 2
  else timeout

def increaseHotiTimeout (bule : BuEntry) : BuEntry :=
  { bule with homeInitTimeout := increaseTimeout bule.homeInitTimeout }

def increaseCotiTimeout (bule : BuEntry) : BuEntry :=
  { bule with careOfInitTimeout := increaseTimeout bule.careOfInitTimeout }

/-- `testSuccess(true)`: the home test timer is scheduled for the next home test. -/
def testSuccessEarly (bule : BuEntry) : Exec Bool := do
  let hoti ← Exec.deref .nullDeref bule.hotiRetransTmr
  if ¬ hoti.isScheduled then return false
  else do
    let coti ← Exec.deref .nullDeref bule.cotiRetransTmr
    return !coti.isScheduled && bule.careOfNI ≠ 0 && bule.homeNI ≠ 0

end BuEntry

/-- A HoT or a CoT -/
inductive TestKind where
  | hot
  | cot
deriving DecidableEq

/-- A test message, with the addresses and the timestamp of its datagram -/
structure TestReply where
  kind : TestKind
  srcAddress : Ipv6Addr
  destAddress : Ipv6Addr
  cookie : BitVec 32
  ni : BitVec 16
  timestamp : ℚ
deriving DecidableEq

structure SentTest where
  kind : TestKind
  srcAddress : Ipv6Addr
  destAddress : Ipv6Addr
  cookie : BitVec 32
  timestamp : ℚ
deriving DecidableEq

namespace BuEntry

def cancelTestInitTimeout (bule : BuEntry) : TestKind → Exec BuEntry
  | .hot => do
      let tmr ← Exec.deref .nullDeref bule.hotiRetransTmr
      let tmr ← tmr.cancel
      return { bule with homeInitTimeout := 0, hotiRetransTmr := some tmr }
  | .cot => do
      let tmr ← Exec.deref .nullDeref bule.cotiRetransTmr
      let tmr ← tmr.cancel
      return { bule with careOfInitTimeout := 0, cotiRetransTmr := some tmr }

def testCookie (bule : BuEntry) : TestKind → BitVec 32
  | .hot => bule.homeCookie
  | .cot => bule.careOfCookie

/-- The entry after a test message that was accepted. With early Binding Updates the next home test
is scheduled. -/
def tested (bule : BuEntry) (msg : TestReply) (earlyBU : Bool) (now : ℚ) : Exec BuEntry := do
  let bule ← bule.cancelTestInitTimeout msg.kind
  match msg.kind with
  | .hot =>
      let again := bule.hotiRetransTmr.map (·.reschedule (now + maxTokenLifetime - 10))
      return { bule with
        hotiRetransTmr := if earlyBU then again else bule.hotiRetransTmr
        homeNI := msg.ni }
  | .cot => return { bule with careOfNI := msg.ni }

/-- The timers that `sendInits` sets. Other tests of the entry are cancelled. -/
def startTests (bule : BuEntry) (dest coa : Ipv6Addr) (isNewBU earlyBU sendBUAckFlag : Bool) (now : ℚ) :
    Exec BuEntry := do
  let testInitScheduleTime := now + selfScheduleDelay
  let coti ← Exec.deref .nullDeref bule.cotiRetransTmr
  let coti := coti.bind dest coa now
  let hoti ← (do
    if earlyBU then return bule.hotiRetransTmr
    else do
      let hoti ← Exec.deref .nullDeref bule.hotiRetransTmr
      return some { hoti with scheduled := none })
  let coti := { coti with scheduled := none }
  let hoti := hoti.map fun hoti =>
    if ¬ earlyBU ∨ (isNewBU ∨ bule.homeNI = 0) ∧ ¬ hoti.isScheduled then
      (hoti.bind dest coa now).reschedule testInitScheduleTime
    else hoti
  return { bule with
    buReceived := bule.buReceived && !sendBUAckFlag
    hotiRetransTmr := hoti
    cotiRetransTmr :=
      some (if bule.homeAddr = coa then coti else coti.reschedule testInitScheduleTime) }

/-- The entry that `sendInits` creates for a new destination -/
def createTested (dest hoa coa : Ipv6Addr) (lifetime : Nat) : BuEntry :=
  { BuEntry.create dest hoa coa lifetime 0 0 false false with
    hotiRetransTmr := some .create, cotiRetransTmr := some .create }

end BuEntry

/-- A call of `sendBU` for a correspondent node that is still to be made -/
structure Registration where
  dest : Ipv6Addr
  coa : Ipv6Addr
  hoa : Ipv6Addr
  lifetime : Nat
  timestamp : ℚ
deriving DecidableEq

namespace MobileNode

/-- The primary care-of address, even if it is not registered yet -/
def careOfAddr (mn : MobileNode) : Exec Ipv6Addr := do
  Exec.assert mn.primaryHA.isSome
  let ha ← Exec.deref .nullDeref mn.primaryHA
  return ((mn.findBU ha).map (·.careOfAddr)).getD mn.homeAddr

def register (mn : MobileNode) (r : Registration) : Exec MobileNode :=
  (·.2) <$> mn.sendBU r.dest r.coa r.hoa r.lifetime false false r.timestamp

/-- The address that the entry of a test message is looked up with -/
def testSource (mn : MobileNode) (srcAddress : Ipv6Addr) : Ipv6Addr :=
  if mn.signalingEnhance then
    ((mn.bc.findBindingByCoA srcAddress).map (·.homeAddr)).getD srcAddress
  else srcAddress

/-- A test message is not for the address that was tested, or has another cookie. -/
def ignoresTest (mn : MobileNode) (msg : TestReply) (bule : BuEntry) : Exec Bool := do
  let tested ← (match msg.kind with
    | .cot => mn.careOfAddr
    | .hot => .ok mn.homeAddr)
  return tested ≠ msg.destAddress ∨ msg.cookie ≠ bule.testCookie msg.kind

/-- `processTest` up to the Binding Update that it sends; `lifetime` is that of the addresses. -/
def processTest (mn : MobileNode) (msg : TestReply) (lifetime : Nat) :
    Exec (Option Registration × MobileNode) :=
  let srcAddr := mn.testSource msg.srcAddress
  match mn.findBU srcAddr with
  | none => .ok (none, mn)
  | some bule => do
      let ignored ← mn.ignoresTest msg bule
      if ignored then return (none, mn)
      else do
        let bule ← bule.tested msg mn.earlyBindingUpdate mn.now
        let mn := mn.modifyBU srcAddr fun _ => bule
        let coa ← mn.careOfAddr
        let success ← (if mn.earlyBindingUpdate then bule.testSuccessEarly else bule.testSuccess)
        -- an entry of a proactive home test has sent no Binding Update that is to be taken back
        if success ∨ mn.awayFromHome ∧ mn.earlyBindingUpdate ∧ msg.kind = .hot ∨
            bule.homeAddr = coa ∧ bule.homeNI ≠ 0 ∧ bule.lastTimeSent ≠ 0 then do
          Exec.assert (msg.timestamp ≠ 0)
          let lifetime := if bule.homeAddr = coa then 0 else lifetime
          return (some ⟨msg.srcAddress, coa, mn.homeAddr, lifetime, msg.timestamp⟩, mn)
        else return (none, mn)

/-- The entry of `sendInits`, which is created for a new destination -/
def testedEntry (mn : MobileNode) (dest coa : Ipv6Addr) (lifetime : Nat) :
    Exec (BuEntry × MobileNode) :=
  match mn.findBU dest with
  | some bule => .ok (bule, mn)
  | none => do
      let bule := BuEntry.createTested dest mn.homeAddr coa lifetime
      let bul ← mn.bul.addBU bule
      return (bule, { mn with bul })

/-- `sendInits` does nothing for an entry with a test in progress, or after a recent update. -/
def refusesInits (mn : MobileNode) (bule : BuEntry) : Bool :=
  bule.isPerformingRR mn.earlyBindingUpdate mn.now ∨ mn.now < bule.lastTimeSent + updateInterval

/-- `sendInits` up to the Binding Update that it sends -/
def sendInits (mn : MobileNode) (dest coa : Ipv6Addr) (lifetime : Nat) :
    Exec (Option Registration × MobileNode) :=
  let found := mn.findBU dest
  if found.any mn.refusesInits then .ok (none, mn)
  else do
    let (bule, mn) ← mn.testedEntry dest coa lifetime
    let bule ← bule.startTests dest coa found.isNone mn.earlyBindingUpdate mn.sendBUAckFlag mn.now
    let mn := mn.modifyBU dest fun _ => bule
    let returns := bule.homeAddr = coa ∧ bule.homeNI ≠ 0
    return (if returns then some ⟨dest, coa, bule.homeAddr, 0, mn.now⟩ else none, mn)

/-- `sendHoTI`; `tunnel` holds if the tunnel to the home agent is found. -/
def sendHoTI (mn : MobileNode) (dest : Ipv6Addr) (timestamp : ℚ) (cookie : BitVec 32) (tunnel : Bool) :
    Exec (SentTest × MobileNode) := do
  Exec.assert (mn.findBU dest).isSome
  let bule ← Exec.deref .nullDeref (mn.findBU dest)
  let bule := { bule.increaseHotiTimeout with homeCookie := cookie }
  let coa ← mn.careOfAddr
  Exec.assert (coa ≠ mn.homeAddr → tunnel)
  let tmr ← Exec.deref .nullDeref bule.hotiRetransTmr
  let tmr := tmr.reschedule (mn.now + bule.homeInitTimeout)
  return (⟨.hot, mn.homeAddr, dest, cookie, timestamp⟩,
    mn.modifyBU dest fun _ => { bule with hotiRetransTmr := some tmr })

/-- `sendCoTI` up to the early Binding Update that it sends -/
def sendCoTI (mn : MobileNode) (dest coa : Ipv6Addr) (timestamp : ℚ) (cookie : BitVec 32)
    (lifetime : Nat) : Exec (SentTest × Option Registration × MobileNode) := do
  Exec.assert (mn.findBU dest).isSome
  let bule ← Exec.deref .nullDeref (mn.findBU dest)
  let bule := { bule.increaseCotiTimeout with careOfCookie := cookie }
  let tmr ← Exec.deref .nullDeref bule.cotiRetransTmr
  let tmr := tmr.reschedule (mn.now + bule.careOfInitTimeout)
  let early := mn.earlyBindingUpdate ∧ bule.homeNI ≠ 0
  return (⟨.cot, coa, dest, cookie, timestamp⟩,
    if early then some ⟨dest, coa, mn.homeAddr, lifetime, mn.now⟩ else none,
    mn.modifyBU dest fun _ => { bule with cotiRetransTmr := some tmr })

/-- `processBRR` up to the Binding Update that it sends; `homeAgent` holds if the source is a known
home agent. The home agent's address is taken as the care-of address, and there is no timestamp. -/
def processBRR (mn : MobileNode) (srcAddress destAddress : Ipv6Addr) (homeAgent : Bool) :
    Exec (Option Registration × MobileNode) :=
  match mn.findBU srcAddress with
  | none => .ok (none, mn)
  | some _ => do
      Exec.assert (¬ homeAgent)
      let ha ← Exec.deref .nullDeref mn.primaryHA
      return (some ⟨srcAddress, ha, destAddress, 30000, 0⟩, mn)

def hotiDue (mn : MobileNode) (addr : Ipv6Addr) : Option TIRetransTmr :=
  ((mn.findBU addr).bind (·.hotiRetransTmr)).filter (·.scheduled = some mn.now)

def cotiDue (mn : MobileNode) (addr : Ipv6Addr) : Option TIRetransTmr :=
  ((mn.findBU addr).bind (·.cotiRetransTmr)).filter (·.scheduled = some mn.now)

def hotiFired (tmr : TIRetransTmr) (bule : BuEntry) : BuEntry :=
  { bule with hotiRetransTmr := some { tmr with scheduled := none } }

def cotiFired (tmr : TIRetransTmr) (bule : BuEntry) : BuEntry :=
  { bule with cotiRetransTmr := some { tmr with scheduled := none } }

/-- `sendBUs` for one entry, up to the Binding Update for a correspondent node that it sends -/
def sendBUs (mn : MobileNode) (coa hoa : Ipv6Addr) (lifetime : Nat) (addr : Ipv6Addr) :
    Exec (Option Registration × MobileNode) := do
  let bule ← Exec.deref .useAfterFree (mn.findBU addr)
  if bule.careOfAddr = coa ∧ 0 < bule.state ∨ bule.mapReg ∨ bule.homeAddr ≠ hoa then
    return (none, mn)
  else if mn.returnRoutability ∧ ¬ bule.homeReg then mn.sendInits bule.addr coa lifetime
  else do
    let _ ← Exec.deref .nullDeref mn.primaryHA
    if bule.homeReg then do
      let sent ← mn.sendBU bule.addr coa bule.homeAddr lifetime true false 0
      return (none, sent.2)
    else return (some ⟨bule.addr, coa, bule.homeAddr, lifetime, 0⟩, mn)

/-- The Binding Update that is still to be sent -/
def finish : Option Registration × MobileNode → Exec MobileNode
  | (none, mn) => .ok mn
  | (some r, mn) => mn.register r

def updateEntries (coa hoa : Ipv6Addr) (lifetime : Nat) : MobileNode → List Ipv6Addr → Exec MobileNode :=
  run fun mn addr => mn.sendBUs coa hoa lifetime addr >>= finish

/-- `sendBUToAll` up to the updates of the entries: the node and the entries that are updated. -/
def sendBUToAll (mn : MobileNode) (coa hoa : Ipv6Addr) (lifetime : Nat) :
    Exec (MobileNode × List Ipv6Addr) := do
  Exec.assert (coa ≠ .unspecified)
  let first ← (if mn.bul.isEmpty then .ok true
    else if mn.earlyBindingUpdate then do
      let ha ← Exec.deref .nullDeref mn.primaryHA
      return (mn.findBU ha).isNone
    else .ok false)
  if first then do
    Exec.assert (mn.homeAddr ≠ .unspecified)
    let _ ← mn.careOfAddr
    let ha ← Exec.deref .nullDeref mn.primaryHA
    let sent ← mn.sendBU ha coa hoa lifetime true false 0
    return (sent.2, if mn.earlyBindingUpdate then sent.2.bul.map (·.addr) else [])
  else do
    let oldcoa ← mn.careOfAddr
    return (mn, if oldcoa ≠ coa then mn.bul.map (·.addr) else [])

end MobileNode

def MobileNodeEvent.isOther : MobileNodeEvent → Bool
  | .routability .. => false
  | .sendBU .. => false
  | _ => true

/-- What happens at a mobile node with return routability. A handover sends Binding Updates to all,
and the calls of `sendBU` are those of the other functions. -/
inductive RoutabilityEvent where
  | other (e : MobileNodeEvent) (isOther : e.isOther = true)
  | handover (coa : Ipv6Addr) (awayFromHome : Bool) (lifetime : Nat)
  | sendInits (dest coa : Ipv6Addr) (lifetime : Nat)
  | hotiTimeout (addr : Ipv6Addr) (cookie : BitVec 32) (tunnel : Bool)
  | cotiTimeout (addr : Ipv6Addr) (cookie : BitVec 32) (lifetime : Nat)
  | test (msg : TestReply) (lifetime : Nat)
  | brr (srcAddress destAddress : Ipv6Addr) (homeAgent : Bool)

def RoutabilityEvent.wait (now : ℚ) : RoutabilityEvent := .other (.wait now) rfl

namespace MobileNode

/-- An event up to the Binding Update for a correspondent node that it sends last, with the test
message that is sent -/
def handle (mn : MobileNode) :
    RoutabilityEvent → Exec (Option SentTest × Option Registration × MobileNode)
  | .other e _ => do
      let mn ← mn.step e
      return (none, none, mn)
  | .handover coa awayFromHome lifetime => do
      let mn := { mn with awayFromHome }
      let (mn, addrs) ← mn.sendBUToAll coa mn.homeAddr lifetime
      let mn ← updateEntries coa mn.homeAddr lifetime mn addrs
      return (none, none, mn)
  | .sendInits dest coa lifetime => do
      let (r, mn) ← mn.sendInits dest coa lifetime
      return (none, r, mn)
  | .hotiTimeout addr cookie tunnel =>
      match mn.hotiDue addr with
      | none => .ok (none, none, mn)
      | some tmr => do
          let (sent, mn) ← (mn.modifyBU addr (hotiFired tmr)).sendHoTI tmr.dest tmr.timestamp cookie tunnel
          return (some sent, none, mn)
  | .cotiTimeout addr cookie lifetime =>
      match mn.cotiDue addr with
      | none => .ok (none, none, mn)
      | some tmr => do
          let (sent, r, mn) ← (mn.modifyBU addr (cotiFired tmr)).sendCoTI tmr.dest tmr.coa tmr.timestamp
            cookie lifetime
          return (some sent, r, mn)
  | .test msg lifetime => do
      let (r, mn) ← mn.processTest msg lifetime
      return (none, r, mn)
  | .brr srcAddress destAddress homeAgent => do
      let (r, mn) ← mn.processBRR srcAddress destAddress homeAgent
      return (none, r, mn)

def routabilityStep (mn : MobileNode) (e : RoutabilityEvent) : Exec MobileNode :=
  mn.handle e >>= fun (_, call) => finish call

end MobileNode

/-- What a Binding Update, an acknowledgement or a tick leaves of an entry -/
structure BuEntry.Follows (now : ℚ) (bule bule' : BuEntry) : Prop where
  addr : bule'.addr = bule.addr
  homeAddr : bule'.homeAddr = bule.homeAddr
  hotiRetransTmr : bule'.hotiRetransTmr = bule.hotiRetransTmr
  cotiRetransTmr : bule'.cotiRetransTmr = bule.cotiRetransTmr
  homeNI : bule'.homeNI = bule.homeNI ∨ bule'.homeNI = 0
  lastTimeSent : bule'.lastTimeSent = bule.lastTimeSent ∨ now ≤ bule'.lastTimeSent

/-- An entry that is created without a test -/
structure BuEntry.Untested (hoa : Ipv6Addr) (bule : BuEntry) : Prop where
  homeAddr : bule.homeAddr = hoa
  hotiRetransTmr : bule.hotiRetransTmr = none
  cotiRetransTmr : bule.cotiRetransTmr = none
  homeNI : bule.homeNI = 0

namespace MobileNode

/-- A property of each entry of the binding update list -/
structure Entries (P : BuEntry → Prop) (mn : MobileNode) : Prop where
  distinct : mn.bul.Distinct
  each : ∀ {addr bule}, mn.findBU addr = some bule → P bule

/-- A property that does not depend on what a Binding Update changes in an entry -/
def Kept (now : ℚ) (P : BuEntry → Prop) : Prop := ∀ ⦃bule bule'⦄, P bule → bule.Follows now bule' → P bule'

namespace Entries

variable {P : BuEntry → Prop} {mn mn' : MobileNode} {dest coa hoa : Ipv6Addr} {lifetime : Nat}
  {homeReg mapReg : Bool} {timestamp : ℚ}

theorem of_bul (entries : Entries P mn) (bul : mn'.bul = mn.bul) : Entries P mn' where
  distinct := bul ▸ entries.distinct
  each {addr bule} found := by
    have before : mn.findBU addr = some bule := by rwa [findBU, bul] at found
    exact entries.each before

theorem nil (empty : mn.bul = []) : Entries P mn where
  distinct := by
    rw [empty]
    exact List.nodup_nil
  each {addr bule} found := by
    rw [findBU, empty] at found
    cases found

theorem modifyBU {f : BuEntry → BuEntry} (entries : Entries P mn)
    (keeps : ∀ bue : BuEntry, bue.addr = dest → (f bue).addr = dest)
    (modified : ∀ bue, mn.findBU dest = some bue → P (f bue)) : Entries P (mn.modifyBU dest f) where
  distinct := entries.distinct.modifyBU keeps
  each {addr bule} found := by
    change (mn.bul.modifyBU dest f).findBU addr = some bule at found
    rw [BindingUpdateList.findBU_modifyBU keeps] at found
    split at found
    · obtain ⟨bue, before, rfl⟩ := Option.map_eq_some_iff.mp found
      exact modified bue before
    · exact entries.each found

theorem written {new : BuEntry} {before : MobileNode} (entries : Entries P mn) (has : P new)
    (written : Written mn before new mn') : Entries P mn' where
  distinct := written.distinct entries.distinct
  each {addr bule} found := by
    rw [written.findBU] at found
    split at found
    · cases found
      exact has
    · exact entries.each found

theorem removeBU (entries : Entries P mn) (bul : mn'.bul = mn.bul.removeBU dest) : Entries P mn' where
  distinct := bul ▸ entries.distinct.removeBU
  each {addr bule} found := by
    rw [findBU, bul, entries.distinct.findBU_removeBU] at found
    split at found
    · cases found
    · exact entries.each found

end Entries

section Follows

variable {mn mn' : MobileNode} {dest coa hoa : Ipv6Addr} {lifetime : Nat} {homeReg mapReg : Bool}
  {timestamp : ℚ}

variable {bue bue' : BuEntry}

theorem acknowledged_follows {ba : BA} {now : ℚ}
    (updated : acknowledged bue ba = some bue') : bue.Follows now bue' := by
  unfold acknowledged at updated
  split at updated
  · dsimp only at updated
    split at updated
    · cases updated
      exact ⟨rfl, rfl, rfl, rfl, Or.inl rfl, Or.inl rfl⟩
    · cases updated
      exact ⟨rfl, rfl, rfl, rfl, Or.inl rfl, Or.inl rfl⟩
  · split at updated
    · cases updated
      exact ⟨rfl, rfl, rfl, rfl, Or.inl rfl, Or.inl rfl⟩
    · cases updated
      exact ⟨rfl, rfl, rfl, rfl, Or.inl rfl, Or.inl rfl⟩
  · cases updated

theorem expire_follows {now : ℚ}
    (kept : BindingUpdateList.expire mipv6Period bue = some bue') : bue.Follows now bue' := by
  unfold BindingUpdateList.expire at kept
  split at kept
  · cases kept
    exact ⟨rfl, rfl, rfl, rfl, Or.inl rfl, Or.inl rfl⟩
  · cases kept

variable {dgram : MobilityDatagram BU}

theorem Sent.follows {old new : BuEntry} (sending : Sent mn dest coa hoa homeReg mapReg dgram (some old) new mn') :
    old.Follows mn.now new where
  addr := by
    rw [sending.addr, bulAddr, sending.found]
    rfl
  homeAddr := sending.updated.homeAddr
  hotiRetransTmr := sending.updated.hotiRetransTmr
  cotiRetransTmr := sending.updated.cotiRetransTmr
  homeNI := sending.updated.homeNI
  lastTimeSent := Or.inr (sending.updated.lastTimeSent ▸ now_le_sent)

theorem Sent.untested {new : BuEntry}
    (sending : Sent mn dest coa hoa homeReg mapReg dgram none new mn') : new.Untested hoa where
  homeAddr := sending.updated.homeAddr
  hotiRetransTmr := sending.updated.hotiRetransTmr
  cotiRetransTmr := sending.updated.cotiRetransTmr
  homeNI := sending.updated.homeNI.elim id id

end Follows

namespace Entries

variable {P : BuEntry → Prop} {mn mn' : MobileNode} {dest coa hoa : Ipv6Addr} {lifetime : Nat}
  {homeReg mapReg : Bool} {timestamp : ℚ}

theorem sendBU {sent : Option (MobilityDatagram BU)} (entries : Entries P mn) (kept : Kept mn.now P)
    (untested : ∀ bule, bule.Untested hoa → P bule)
    (sends : mn.sendBU dest coa hoa lifetime homeReg mapReg timestamp = .ok (sent, mn')) : Entries P mn' := by
  rcases sendBU_cases sends with ⟨-, rfl⟩ | ⟨dgram, old, new, -, sending⟩
  · exact entries
  · refine entries.written ?_ sending.written
    cases old with
    | none => exact untested new sending.untested
    | some bule => exact kept (entries.each (findBuleFor_addr sending.found)) sending.follows

/-- The rest of what happens at the node leaves the tests as they are. -/
theorem step {e : MobileNodeEvent} (entries : Entries P mn) (kept : Kept mn.now P)
    (isOther : e.isOther = true) (steps : mn.step e = .ok mn') : Entries P mn' := by
  cases e with
  | wait now =>
      cases steps
      exact entries.of_bul rfl
  | bindings bc =>
      cases steps
      exact entries.of_bul rfl
  | routability => cases isOther
  | sendBU => cases isOther
  | retransmitBU i =>
      obtain ⟨sent, fires⟩ := snd_map_eq_ok steps
      obtain ⟨tmr, -, ⟨-, -, rfl⟩ | ⟨bule, dgram, timeout, scheduled, -, found, -, -, rfl⟩ | ⟨-, -, rfl⟩⟩ :=
        retransmitBU_cases fires
      · exact entries.of_bul rfl
      · refine (entries.modifyBU (fun _ _ => resend_addr found) fun _ _ => ?_).of_bul rfl
        exact kept (entries.each found) ⟨rfl, rfl, rfl, rfl, Or.inl rfl, Or.inr le_rfl⟩
      · have given : Entries P (mn.modifyBU tmr.dgram.destAddress BuEntry.giveUp) :=
          entries.modifyBU (fun _ same => same) fun bue found =>
            kept (entries.each found) ⟨rfl, rfl, rfl, rfl, Or.inl rfl, Or.inl rfl⟩
        exact given.of_bul rfl
  | processBA ba srcAddress =>
      obtain ⟨accepted, acknowledges⟩ := snd_map_eq_ok steps
      rcases processBA_cases acknowledges with ⟨-, -, -, -, rfl⟩ | ⟨stopped, stops, -, rest⟩
      · exact entries
      · have before : Entries P stopped := entries.of_bul (stopTmr_ok stops).1
        obtain ⟨-, rfl⟩ | ⟨bue, found, -, ⟨bue', updated, rfl⟩ | ⟨-, rfl⟩⟩ := rest
        · exact before
        · have addr : bue'.addr = srcAddress :=
            (acknowledged_addr updated).trans (BindingUpdateList.findBU_addr found)
          refine before.modifyBU (fun _ _ => addr) fun _ _ => ?_
          exact kept (entries.each found) (acknowledged_follows updated)
        · exact before.removeBU rfl
  | processBE srcAddress =>
      cases steps
      exact entries.removeBU rfl
  | expireLifetimes =>
      cases steps
      refine ⟨entries.distinct.expireLifetimes, fun {addr bule'} found => ?_⟩
      obtain ⟨bule, before, left⟩ :=
        Option.bind_eq_some_iff.mp (entries.distinct.findBU_expireLifetimes.symm.trans found)
      exact kept (entries.each before) (expire_follows left)

end Entries

section Routability

variable {mn mn' : MobileNode} {dest coa hoa : Ipv6Addr} {lifetime : Nat} {r : Option Registration}

variable {now : ℚ}

theorem startTests_eq {bule started : BuEntry} {isNewBU earlyBU ack : Bool}
    (starts : bule.startTests dest coa isNewBU earlyBU ack now = .ok started) :
    ∃ buReceived hoti coti, started = { bule with
        buReceived, hotiRetransTmr := hoti, cotiRetransTmr := some coti } ∧
      coti.dest = dest ∧ coti.coa = coa := by
  unfold BuEntry.startTests at starts
  obtain ⟨coti, -, rest⟩ := bind_eq_ok.mp starts
  obtain ⟨hoti, -, rest⟩ := bind_eq_ok.mp rest
  cases rest
  refine ⟨_, _, _, rfl, ?_⟩
  split
  · exact ⟨rfl, rfl⟩
  · exact ⟨rfl, rfl⟩

theorem testedEntry_cases {bule : BuEntry} (enters : mn.testedEntry dest coa lifetime = .ok (bule, mn')) :
    bule.addr = dest ∧ mn'.findBU dest = some bule ∧ (∃ bul, mn' = { mn with bul }) ∧
      (mn.findBU dest = some bule ∧ mn' = mn ∨
        mn.findBU dest = none ∧ bule = BuEntry.createTested dest mn.homeAddr coa lifetime ∧
          Written mn mn bule mn') := by
  unfold testedEntry at enters
  split at enters
  · rename_i found
    cases enters
    exact ⟨BindingUpdateList.findBU_addr found, found, ⟨_, rfl⟩, Or.inl ⟨found, rfl⟩⟩
  · rename_i absent
    obtain ⟨bul, adds, rest⟩ := bind_eq_ok.mp enters
    cases rest
    have written := Written.addBU adds
    refine ⟨rfl, ?_, ⟨_, rfl⟩, Or.inr ⟨absent, rfl, written⟩⟩
    rw [written.findBU]
    exact if_pos rfl

theorem sendInits_cases (inits : mn.sendInits dest coa lifetime = .ok (r, mn')) :
    (∃ bule, mn.findBU dest = some bule ∧ mn.refusesInits bule = true ∧ r = none ∧ mn' = mn) ∨
      ∃ bule started entered, (mn.findBU dest).any mn.refusesInits = false ∧
        mn.testedEntry dest coa lifetime = .ok (bule, entered) ∧
        bule.startTests dest coa (mn.findBU dest).isNone mn.earlyBindingUpdate mn.sendBUAckFlag mn.now =
          .ok started ∧
        mn' = entered.modifyBU dest (fun _ => started) ∧
        r = if started.homeAddr = coa ∧ started.homeNI ≠ 0 then
          some ⟨dest, coa, started.homeAddr, 0, mn.now⟩ else none := by
  unfold sendInits at inits
  dsimp only at inits
  split at inits
  · rename_i refused
    obtain ⟨bule, found, refuses⟩ := (Option.any_eq_true _ _).mp refused
    cases inits
    exact Or.inl ⟨bule, found, refuses, rfl, rfl⟩
  · rename_i accepted
    obtain ⟨⟨bule, entered⟩, enters, rest⟩ := bind_eq_ok.mp inits
    obtain ⟨-, -, ⟨bul, settings⟩, -⟩ := testedEntry_cases enters
    obtain ⟨started, starts, rest⟩ := bind_eq_ok.mp rest
    subst settings
    cases rest
    exact Or.inr ⟨bule, started, _, eq_false_of_ne_true accepted, enters, starts, rfl, rfl⟩

variable {msg : TestReply} {earlyBU : Bool}

theorem tested_cases {bule tested : BuEntry}
    (tests : bule.tested msg earlyBU now = .ok tested) :
    (msg.kind = .hot ∧ ∃ tmr scheduled, bule.hotiRetransTmr = some tmr ∧
      (earlyBU = false → scheduled = none) ∧ tested = { bule with
        homeInitTimeout := 0, hotiRetransTmr := some { tmr with scheduled }, homeNI := msg.ni }) ∨
    (msg.kind = .cot ∧ ∃ tmr, bule.cotiRetransTmr = some tmr ∧ tested = { bule with
        careOfInitTimeout := 0, cotiRetransTmr := some { tmr with scheduled := none }
        careOfNI := msg.ni }) := by
  unfold BuEntry.tested BuEntry.cancelTestInitTimeout at tests
  cases kind : msg.kind with
  | hot =>
      rw [kind] at tests
      obtain ⟨cancelled, cancels, rest⟩ := bind_eq_ok.mp tests
      obtain ⟨tmr, timer, cancels⟩ := bind_eq_ok.mp cancels
      obtain ⟨stopped, stops, cancels⟩ := bind_eq_ok.mp cancels
      obtain ⟨_, -, stops⟩ := bind_eq_ok.mp stops
      cases stops
      cases cancels
      cases rest
      refine Or.inl ⟨rfl, tmr, if earlyBU then some (now + maxTokenLifetime - 10) else none,
        (deref_eq_ok _ _ _).mp timer, fun off => if_neg (by rw [off]; decide), ?_⟩
      cases earlyBU
      · rfl
      · rfl
  | cot =>
      rw [kind] at tests
      obtain ⟨cancelled, cancels, rest⟩ := bind_eq_ok.mp tests
      obtain ⟨tmr, timer, cancels⟩ := bind_eq_ok.mp cancels
      obtain ⟨stopped, stops, cancels⟩ := bind_eq_ok.mp cancels
      obtain ⟨_, -, stops⟩ := bind_eq_ok.mp stops
      cases stops
      cases cancels
      cases rest
      exact Or.inr ⟨rfl, tmr, (deref_eq_ok _ _ _).mp timer, rfl⟩

theorem tested_keeps {bule tested : BuEntry} (tests : bule.tested msg earlyBU now = .ok tested) :
    tested.addr = bule.addr ∧ tested.homeAddr = bule.homeAddr ∧ tested.careOfAddr = bule.careOfAddr ∧
      tested.lastTimeSent = bule.lastTimeSent := by
  rcases tested_cases tests with ⟨-, tmr, scheduled, -, -, rfl⟩ | ⟨-, tmr, -, rfl⟩
  · exact ⟨rfl, rfl, rfl, rfl⟩
  · exact ⟨rfl, rfl, rfl, rfl⟩

theorem processTest_cases (tests : mn.processTest msg lifetime = .ok (r, mn')) :
    (r = none ∧ mn' = mn) ∨
      ∃ bule tested coa success, mn.findBU (mn.testSource msg.srcAddress) = some bule ∧
        mn.ignoresTest msg bule = .ok false ∧
        bule.tested msg mn.earlyBindingUpdate mn.now = .ok tested ∧
        mn' = mn.modifyBU (mn.testSource msg.srcAddress) (fun _ => tested) ∧ mn'.careOfAddr = .ok coa ∧
        (if mn.earlyBindingUpdate then tested.testSuccessEarly else tested.testSuccess) = .ok success ∧
        (r = none ∨ r = some ⟨msg.srcAddress, coa, mn.homeAddr,
            if tested.homeAddr = coa then 0 else lifetime, msg.timestamp⟩ ∧ msg.timestamp ≠ 0 ∧
          (success = true ∨ (mn.awayFromHome = true ∧ mn.earlyBindingUpdate = true ∧ msg.kind = .hot) ∨
            tested.homeAddr = coa ∧ tested.homeNI ≠ 0 ∧ tested.lastTimeSent ≠ 0)) := by
  unfold processTest at tests
  dsimp only at tests
  split at tests
  · cases tests
    exact Or.inl ⟨rfl, rfl⟩
  · rename_i bule found
    obtain ⟨ignored, ignores, rest⟩ := bind_eq_ok.mp tests
    split at rest
    · cases rest
      exact Or.inl ⟨rfl, rfl⟩
    · rename_i accepted
      obtain ⟨tested, notes, rest⟩ := bind_eq_ok.mp rest
      obtain ⟨coa, at_coa, rest⟩ := bind_eq_ok.mp rest
      obtain ⟨success, succeeds, rest⟩ := bind_eq_ok.mp rest
      rw [eq_false_of_ne_true accepted] at ignores
      have same : mn' = mn.modifyBU (mn.testSource msg.srcAddress) fun _ => tested := by
        split at rest
        · obtain ⟨_, -, rest⟩ := bind_eq_ok.mp rest
          cases rest
          rfl
        · cases rest
          rfl
      subst same
      refine Or.inr ⟨bule, tested, coa, success, found, ignores, notes, rfl, at_coa, succeeds, ?_⟩
      split at rest
      · rename_i sends
        obtain ⟨_, stamped, rest⟩ := bind_eq_ok.mp rest
        cases rest
        exact Or.inr ⟨rfl, (assert_eq_ok _ _).mp stamped, sends⟩
      · cases rest
        exact Or.inl rfl

variable {cookie : BitVec 32} {sent : SentTest}

theorem sendHoTI_cases {timestamp : ℚ} {tunnel : Bool}
    (sends : mn.sendHoTI dest timestamp cookie tunnel = .ok (sent, mn')) :
    ∃ bule tmr homeInitTimeout, mn.findBU dest = some bule ∧
      sent = ⟨.hot, mn.homeAddr, dest, cookie, timestamp⟩ ∧
      mn' = mn.modifyBU dest fun _ =>
        { bule with homeInitTimeout, homeCookie := cookie, hotiRetransTmr := some tmr } := by
  unfold sendHoTI at sends
  obtain ⟨_, -, rest⟩ := bind_eq_ok.mp sends
  obtain ⟨bule, found, rest⟩ := bind_eq_ok.mp rest
  obtain ⟨_, -, rest⟩ := bind_eq_ok.mp rest
  obtain ⟨_, -, rest⟩ := bind_eq_ok.mp rest
  obtain ⟨tmr, -, rest⟩ := bind_eq_ok.mp rest
  cases rest
  exact ⟨bule, _, _, (deref_eq_ok _ _ _).mp found, rfl, rfl⟩

theorem sendCoTI_cases {timestamp : ℚ}
    (sends : mn.sendCoTI dest coa timestamp cookie lifetime = .ok (sent, r, mn')) :
    ∃ bule tmr scheduled careOfInitTimeout, mn.findBU dest = some bule ∧
      bule.cotiRetransTmr = some tmr ∧ sent = ⟨.cot, coa, dest, cookie, timestamp⟩ ∧
      (r = if mn.earlyBindingUpdate = true ∧ bule.homeNI ≠ 0 then
        some ⟨dest, coa, mn.homeAddr, lifetime, mn.now⟩ else none) ∧
      mn' = mn.modifyBU dest fun _ => { bule with
        careOfInitTimeout, careOfCookie := cookie, cotiRetransTmr := some { tmr with scheduled } } := by
  unfold sendCoTI at sends
  obtain ⟨_, -, rest⟩ := bind_eq_ok.mp sends
  obtain ⟨bule, found, rest⟩ := bind_eq_ok.mp rest
  obtain ⟨tmr, timer, rest⟩ := bind_eq_ok.mp rest
  cases rest
  exact ⟨bule, tmr, _, _, (deref_eq_ok _ _ _).mp found, (deref_eq_ok _ _ _).mp timer, rfl, rfl,
    rfl⟩

theorem processBRR_bul {srcAddress destAddress : Ipv6Addr} {homeAgent : Bool}
    (requests : mn.processBRR srcAddress destAddress homeAgent = .ok (r, mn')) : mn'.bul = mn.bul := by
  unfold processBRR at requests
  split at requests
  · cases requests
    rfl
  · obtain ⟨_, -, rest⟩ := bind_eq_ok.mp requests
    obtain ⟨_, -, rest⟩ := bind_eq_ok.mp rest
    cases rest
    rfl

/-- An entry is left out, or tested, or it is the home agent's, or the Binding Update is sent at
once without return routability. -/
theorem sendBUs_cases {addr : Ipv6Addr} (updates : mn.sendBUs coa hoa lifetime addr = .ok (r, mn')) :
    (r = none ∧ mn' = mn) ∨ mn.sendInits addr coa lifetime = .ok (r, mn') ∨
      (∃ sent, r = none ∧ mn.sendBU addr coa hoa lifetime true false 0 = .ok (sent, mn')) ∨
      mn.returnRoutability = false ∧ r = some ⟨addr, coa, hoa, lifetime, 0⟩ ∧ mn' = mn := by
  unfold sendBUs at updates
  obtain ⟨bule, found, rest⟩ := bind_eq_ok.mp updates
  have same : bule.addr = addr := BindingUpdateList.findBU_addr ((deref_eq_ok _ _ _).mp found)
  split at rest
  · cases rest
    exact Or.inl ⟨rfl, rfl⟩
  · rename_i meant
    have home : bule.homeAddr = hoa := by
      by_contra differs
      exact meant (Or.inr (Or.inr differs))
    rw [same, home] at rest
    split at rest
    · exact Or.inr (Or.inl rest)
    · rename_i direct
      obtain ⟨_, -, rest⟩ := bind_eq_ok.mp rest
      split at rest
      · obtain ⟨sent, sends, rest⟩ := bind_eq_ok.mp rest
        cases rest
        exact Or.inr (Or.inr (Or.inl ⟨sent.1, rfl, sends⟩))
      · rename_i correspondent
        cases rest
        have off : mn.returnRoutability = false :=
          eq_false_of_ne_true fun on => direct ⟨on, correspondent⟩
        exact Or.inr (Or.inr (Or.inr ⟨off, rfl, rfl⟩))

theorem sendBUToAll_cases {addrs : List Ipv6Addr} (updates : mn.sendBUToAll coa hoa lifetime = .ok (mn', addrs)) :
    mn' = mn ∨ ∃ ha sent, mn.sendBU ha coa hoa lifetime true false 0 = .ok (sent, mn') := by
  unfold sendBUToAll at updates
  obtain ⟨_, -, rest⟩ := bind_eq_ok.mp updates
  obtain ⟨first, -, rest⟩ := bind_eq_ok.mp rest
  split at rest
  · obtain ⟨_, -, rest⟩ := bind_eq_ok.mp rest
    obtain ⟨_, -, rest⟩ := bind_eq_ok.mp rest
    obtain ⟨ha, -, rest⟩ := bind_eq_ok.mp rest
    obtain ⟨sent, sends, rest⟩ := bind_eq_ok.mp rest
    cases rest
    exact Or.inr ⟨ha, sent.1, sends⟩
  · obtain ⟨_, -, rest⟩ := bind_eq_ok.mp rest
    cases rest
    exact Or.inl rfl

end Routability

namespace Entries

variable {P : BuEntry → Prop} {mn mn' : MobileNode} {dest coa hoa : Ipv6Addr} {lifetime : Nat}
  {r : Option Registration}

theorem sendInits (entries : Entries P mn) (created : P (BuEntry.createTested dest mn.homeAddr coa lifetime))
    (starts : ∀ bule started isNewBU, P bule → bule.addr = dest →
      mn.findBU dest = some bule ∧ mn.refusesInits bule = false ∨
        mn.findBU dest = none ∧ bule = BuEntry.createTested dest mn.homeAddr coa lifetime →
      bule.startTests dest coa isNewBU mn.earlyBindingUpdate mn.sendBUAckFlag mn.now = .ok started → P started)
    (inits : mn.sendInits dest coa lifetime = .ok (r, mn')) : Entries P mn' := by
  rcases sendInits_cases inits with ⟨-, -, -, -, rfl⟩ | ⟨bule, started, entered, accepted, enters,
    starting, rfl, -⟩
  · exact entries
  · obtain ⟨addr, -, -, before⟩ := testedEntry_cases enters
    have fresh : Entries P entered ∧ P bule ∧ (mn.findBU dest = some bule ∧ mn.refusesInits bule = false ∨
        mn.findBU dest = none ∧ bule = BuEntry.createTested dest mn.homeAddr coa lifetime) := by
      rcases before with ⟨found, rfl⟩ | ⟨absent, rfl, written⟩
      · rw [found, Option.any_some] at accepted
        exact ⟨entries, entries.each found, Or.inl ⟨found, accepted⟩⟩
      · exact ⟨entries.written created written, created, Or.inr ⟨absent, rfl⟩⟩
    obtain ⟨entered, has, rested⟩ := fresh
    have kept : started.addr = dest := by
      obtain ⟨_, _, _, rfl, -⟩ := startTests_eq starting
      exact addr
    exact entered.modifyBU (fun _ _ => kept) fun _ _ => starts bule started _ has addr rested starting

theorem processTest {msg : TestReply} (entries : Entries P mn)
    (tests : ∀ bule tested, P bule → bule.tested msg mn.earlyBindingUpdate mn.now = .ok tested → P tested)
    (processes : mn.processTest msg lifetime = .ok (r, mn')) : Entries P mn' := by
  rcases processTest_cases processes with ⟨-, rfl⟩ | ⟨bule, tested, -, -, found, -, notes, rfl, -⟩
  · exact entries
  · have addr : tested.addr = mn.testSource msg.srcAddress :=
      (tested_keeps notes).1.trans (BindingUpdateList.findBU_addr found)
    exact entries.modifyBU (fun _ _ => addr) fun _ _ => tests bule tested (entries.each found) notes

theorem finish (entries : Entries P mn) (kept : Kept mn.now P)
    (untested : ∀ call, r = some call → ∀ bule, bule.Untested call.hoa → P bule)
    (finishes : MobileNode.finish (r, mn) = .ok mn') : Entries P mn' := by
  cases r with
  | none =>
      cases finishes
      exact entries
  | some call =>
      obtain ⟨sent, sends⟩ := snd_map_eq_ok finishes
      exact entries.sendBU kept (untested call rfl) sends

end Entries

end MobileNode

end IPv6Suite
