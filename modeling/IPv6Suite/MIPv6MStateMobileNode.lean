import IPv6Suite.Lib.Machine
import IPv6Suite.MIPv6CDS
import IPv6Suite.MIPv6CDSMobileNode

namespace IPv6Suite

open Lib

/-- A retransmission timer with the Binding Update that it sends again -/
structure BURetranTmr where
  timeout : Nat
  dgram : MobilityDatagram BU
  scheduled : Option ℚ
deriving DecidableEq

/-- The mobile node with its settings; `signalingEnhance` holds if that is not `None`. -/
structure MobileNode where
  now : ℚ
  homeAddr : Ipv6Addr
  primaryHA : Option Ipv6Addr
  awayFromHome : Bool
  sendBUAckFlag : Bool
  signalingEnhance : Bool
  returnRoutability : Bool
  earlyBindingUpdate : Bool
  bc : BindingCache
  bul : BindingUpdateList
  buRetranTmrs : List BURetranTmr

namespace MobileNode

/-- A mobile node away from home that has sent nothing yet -/
def create (homeAddr ha : Ipv6Addr) : MobileNode where
  now := 0
  homeAddr
  primaryHA := some ha
  awayFromHome := true
  sendBUAckFlag := true
  signalingEnhance := false
  returnRoutability := false
  earlyBindingUpdate := false
  bc := ∅
  bul := []
  buRetranTmrs := []

def tentativeBindingLifetime : Nat := 3

def findBU (mn : MobileNode) (destAddr : Ipv6Addr) : Option BuEntry := mn.bul.findBU destAddr

def modifyBU (mn : MobileNode) (destAddr : Ipv6Addr) (f : BuEntry → BuEntry) : MobileNode :=
  { mn with bul := BindingUpdateList.modifyBU destAddr f mn.bul }

/-- The entry for a peer that is itself mobile may be stored under its home address. -/
def findBuleFor (mn : MobileNode) (dest : Ipv6Addr) : Option BuEntry :=
  let byHomeAddr := if mn.signalingEnhance then
      (mn.bc.findBindingByCoA dest).bind fun bce => mn.findBU bce.homeAddr
    else none
  byHomeAddr.or (mn.findBU dest)

/-- The address that the entry of a Binding Update to `dest` has. -/
def bulAddr (mn : MobileNode) (dest : Ipv6Addr) : Ipv6Addr :=
  ((mn.findBuleFor dest).map (·.addr)).getD dest

def removeBURetranTmr (mn : MobileNode) (i : Nat) : MobileNode :=
  { mn with buRetranTmrs := mn.buRetranTmrs.eraseIdx i }

def setTmr (mn : MobileNode) (i : Nat) (tmr : BURetranTmr) : MobileNode :=
  { mn with buRetranTmrs := mn.buRetranTmrs.set i tmr }

/-- The place of the first timer for a destination -/
def findTmr (mn : MobileNode) (dest : Ipv6Addr) : Option Nat :=
  mn.buRetranTmrs.findIdx? fun tmr => tmr.dgram.destAddress = dest

/-- The nonce indices of a Binding Update for a correspondent node, whether it is an early one, and
the entry that they are taken from. -/
def nonceIndices (mn : MobileNode) (bule : Option BuEntry) (returnHome : Bool) :
    Exec (Option MIPv6OptNI × Bool × Option BuEntry) := do
  let bule ← Exec.deref .nullDeref bule
  Exec.assert (bule.homeNI ≠ 0)
  if mn.earlyBindingUpdate then
    let ebu := bule.tentativeBinding mn.now
    return (some ⟨bule.homeNI, if ebu then 0 else bule.careOfNI⟩, ebu, some { bule with careOfNI := 0 })
  else
    let success ← (if returnHome then .ok true else bule.testSuccess)
    Exec.assert success
    Exec.assert (¬ bule.isPerformingRR false mn.now)
    return (some ⟨bule.homeNI, bule.careOfNI⟩, false, some { bule with homeNI := 0, careOfNI := 0 })

/-- Starts the retransmission timer of a Binding Update that has to be acknowledged. -/
def startTmr (mn : MobileNode) (bule : Option BuEntry) (dgram : MobilityDatagram BU) : MobileNode :=
  let timeout := (if bule.isSome then initialBindackTimeout else initialBindackTimeoutFirstreg) +
    selfScheduleDelay
  let tmr : BURetranTmr := ⟨timeout.floor.toNat, dgram, some (mn.now + timeout)⟩
  if bule.all fun bule => bule.state = 0 then
    { mn with buRetranTmrs := mn.buRetranTmrs ++ [tmr] }
  else
    match mn.findTmr dgram.destAddress with
    | some i => mn.setTmr i tmr
    | none => mn

/-- Updates the entry, or creates one and adds it to the binding update list. -/
def updateBule (mn : MobileNode) (bule : Option BuEntry) (dest coa hoa : Ipv6Addr) (lifetime : Nat)
    (seq : BitVec 32) (ack homeReg mapReg : Bool) : Exec MobileNode :=
  let lastTime := mn.now + selfScheduleDelay
  match bule with
  | none => do
      let bule := BuEntry.create dest hoa coa lifetime seq lastTime homeReg mapReg
      let bul ← mn.bul.addBU (if ack then { bule with state := bule.state + 1 } else bule)
      return { mn with bul }
  | some bule => .ok (mn.modifyBU bule.addr fun _ => bule.update coa lifetime seq ack lastTime)

/-- `sendBU`, with the datagram that is sent unless the rate is limited -/
def sendBU (mn : MobileNode) (dest coa hoa : Ipv6Addr) (lifetime : Nat) (homeReg mapReg : Bool)
    (timestamp : ℚ) : Exec (Option (MobilityDatagram BU) × MobileNode) := do
  let ack := homeReg || mapReg || mn.sendBUAckFlag
  let bule := mn.findBuleFor dest
  Exec.assert (mn.returnRoutability ∧ ¬ homeReg ∧ ¬ mapReg → bule.isSome)
  let seq := (bule.map (·.sequence + 1)).getD 0
  if bule.any fun bule => bule.careOfAddr = coa ∧ mn.now - bule.lastTimeSent < maxUpdateRate then
    return (none, mn)
  else do
    let lifetime := min lifetime 65535
    let cn := !homeReg && !mapReg
    let (ni, ebu, bule) ← (if cn then mn.nonceIndices bule (coa = hoa) else .ok (none, false, bule))
    let lifetime := if ebu then tentativeBindingLifetime else lifetime
    let bu : BU :=
      { ack, homereg := homeReg, llac := true, mapreg := mapReg, sequence := seq.setWidth 16
        expires := BitVec.ofNat 16 lifetime, ni, acoa := none, auth := cn }
    Exec.assert (cn = true ↔ timestamp ≠ 0)
    let dgram : MobilityDatagram BU :=
      { srcAddress := coa, destAddress := dest, homeAddressOpt := some hoa, inputPort := -1
        timestamp := if cn then timestamp else mn.now, encapsulatedMsg := bu }
    let mn := if ack then mn.startTmr bule dgram else mn
    let mn ← mn.updateBule bule dest coa hoa lifetime seq ack homeReg mapReg
    return (some dgram, mn)

/-- `retransmitBU` of the timer at a place in the list, once it has fired, with the datagram that is
sent again -/
def retransmitBU (mn : MobileNode) (i : Nat) : Exec (Option (MobilityDatagram BU) × MobileNode) := do
  let tmr ← Exec.deref .useAfterFree mn.buRetranTmrs[i]?
  let dest := tmr.dgram.destAddress
  if dest = .unspecified then return (none, mn.removeBURetranTmr i)
  else if tmr.timeout < maxBindackTimeout then
    let timeout := tmr.timeout * 2
    match mn.findBU dest with
    | none => return (none, mn.removeBURetranTmr i)
    | some bule =>
        let bule := bule.resend mn.now
        let dgram := tmr.dgram.setSequence (bule.sequence.setWidth 16)
        let mn := mn.modifyBU dest fun _ => bule
        return (some dgram, mn.setTmr i ⟨timeout, dgram, some (mn.now + timeout)⟩)
  else do
    Exec.assert (mn.findBU dest).isSome
    let mn := mn.modifyBU dest BuEntry.giveUp
    let _ ← Exec.deref .nullDeref mn.primaryHA
    return (none, mn.removeBURetranTmr i)

/-- Deletes the retransmission timer of what is acknowledged. -/
def stopTmr (mn : MobileNode) (srcAddress : Ipv6Addr) : Exec MobileNode :=
  match mn.findTmr srcAddress with
  | none => .ok mn
  | some i => do
      let tmr ← Exec.deref .useAfterFree mn.buRetranTmrs[i]?
      let mn ← (if tmr.dgram.srcAddress = mn.homeAddr then do
          let ha ← Exec.deref .nullDeref mn.primaryHA
          return if srcAddress = ha then { mn with awayFromHome := false } else mn
        else .ok mn)
      return mn.removeBURetranTmr i

/-- What an acknowledged Binding Update leaves of its entry, or none if the entry is removed -/
def acknowledged (bue : BuEntry) (ba : BA) : Option BuEntry :=
  match ba.status with
  | .accepted =>
      let bue := { bue with state := 0, buReceived := bue.buReceived || !bue.homeReg && !bue.mapReg }
      if ba.lifetime < bue.lifetime then
        let exp : Int := bue.expires.toNat - (bue.lifetime.toNat - ba.lifetime.toNat : Int)
        some (bue.setExpires (BitVec.ofInt 32 (max exp 0)))
      else some bue
  | .seqOutOfWindow =>
      if lessThanEqualsModulo bue.sequence (ba.sequence.setWidth 32) 16 then
        some { bue with sequence := ba.sequence.setWidth 32 + 1 }
      else some bue
  | _ => none

/-- `processBA`; the result is whether the acknowledgement was accepted. -/
def processBA (mn : MobileNode) (ba : BA) (srcAddress : Ipv6Addr) : Exec (Bool × MobileNode) := do
  let bue := mn.findBU srcAddress
  if bue.any fun bue => ba.sequence.setWidth 32 ≠ bue.sequence then return (false, mn)
  else do
    let mn ← mn.stopTmr srcAddress
    let mn := match bue with
      | none => mn
      | some bue =>
          match acknowledged bue ba with
          | some bue => mn.modifyBU srcAddress fun _ => bue
          | none => { mn with bul := mn.bul.removeBU srcAddress }
    let _ ← Exec.deref .nullDeref mn.primaryHA
    return (ba.status = .accepted, mn)

def processBE (mn : MobileNode) (srcAddress : Ipv6Addr) : MobileNode :=
  { mn with bul := mn.bul.removeBU srcAddress }

def expireLifetimes (mn : MobileNode) : MobileNode :=
  { mn with bul := mn.bul.expireLifetimes mipv6Period }

end MobileNode

/-- What happens at a mobile node. `routability` is what return routability leaves in an entry. -/
inductive MobileNodeEvent where
  | wait (now : ℚ)
  | bindings (bc : BindingCache)
  | routability (dest : Ipv6Addr) (homeNI careOfNI : BitVec 16) (hoti coti : Option TIRetransTmr)
  | sendBU (dest coa hoa : Ipv6Addr) (lifetime : Nat) (homeReg mapReg : Bool) (timestamp : ℚ)
  | retransmitBU (i : Nat)
  | processBA (ba : BA) (srcAddress : Ipv6Addr)
  | processBE (srcAddress : Ipv6Addr)
  | expireLifetimes

namespace MobileNode

def step (mn : MobileNode) : MobileNodeEvent → Exec MobileNode
  | .wait now => .ok { mn with now }
  | .bindings bc => .ok { mn with bc }
  | .routability dest homeNI careOfNI hoti coti =>
      .ok (mn.modifyBU dest fun bue =>
        { bue with homeNI, careOfNI, hotiRetransTmr := hoti, cotiRetransTmr := coti })
  | .sendBU dest coa hoa lifetime homeReg mapReg timestamp =>
      (·.2) <$> mn.sendBU dest coa hoa lifetime homeReg mapReg timestamp
  | .retransmitBU i => (·.2) <$> mn.retransmitBU i
  | .processBA ba srcAddress => (·.2) <$> mn.processBA ba srcAddress
  | .processBE srcAddress => .ok (mn.processBE srcAddress)
  | .expireLifetimes => .ok mn.expireLifetimes

variable {mn mn' : MobileNode} {dest coa hoa : Ipv6Addr} {lifetime : Nat} {homeReg mapReg : Bool}
  {timestamp : ℚ}

theorem findBuleFor_addr {bule : BuEntry} (found : mn.findBuleFor dest = some bule) :
    mn.findBU bule.addr = some bule := by
  unfold findBuleFor at found
  split at found
  · rcases Option.or_eq_some_iff.mp found with byHomeAddr | ⟨-, byDest⟩
    · obtain ⟨bce, -, entry⟩ := Option.bind_eq_some_iff.mp byHomeAddr
      rw [findBU, BindingUpdateList.findBU_addr entry]
      exact entry
    · rw [findBU, BindingUpdateList.findBU_addr byDest]
      exact byDest
  · rw [Option.none_or] at found
    rw [findBU, BindingUpdateList.findBU_addr found]
    exact found

theorem findBuleFor_none (absent : mn.findBuleFor dest = none) : mn.findBU dest = none :=
  (Option.or_eq_none_iff.mp absent).2

theorem nonceIndices_keeps {bule bule' : Option BuEntry} {returnHome ebu : Bool}
    {ni : Option MIPv6OptNI} (returns : mn.nonceIndices bule returnHome = .ok (ni, ebu, bule')) :
    ∃ bue homeNI, bule = some bue ∧ bule' = some { bue with homeNI, careOfNI := 0 } ∧
      (homeNI = bue.homeNI ∨ homeNI = 0) := by
  unfold nonceIndices at returns
  obtain ⟨bue, entry, rest⟩ := bind_eq_ok.mp returns
  obtain ⟨_, -, rest⟩ := bind_eq_ok.mp rest
  rw [deref_eq_ok] at entry
  split at rest
  · cases rest
    exact ⟨bue, bue.homeNI, entry, rfl, Or.inl rfl⟩
  · obtain ⟨_, -, rest⟩ := bind_eq_ok.mp rest
    obtain ⟨_, -, rest⟩ := bind_eq_ok.mp rest
    obtain ⟨_, -, rest⟩ := bind_eq_ok.mp rest
    cases rest
    exact ⟨bue, 0, entry, rfl, Or.inr rfl⟩

/-- The entry `new` was written to the list, and the timers are those of `before`. -/
structure Written (mn before : MobileNode) (new : BuEntry) (mn' : MobileNode) : Prop where
  findBU : ∀ addr, mn'.findBU addr = if new.addr = addr then some new else mn.findBU addr
  distinct : mn.bul.Distinct → mn'.bul.Distinct
  timers : mn'.buRetranTmrs = before.buRetranTmrs

variable {new : BuEntry}

theorem Written.of_bul {before : MobileNode} (written : Written before before new mn')
    (bul : before.bul = mn.bul) : Written mn before new mn' where
  findBU addr := by
    rw [written.findBU]
    unfold MobileNode.findBU
    rw [bul]
  distinct := bul ▸ written.distinct
  timers := written.timers

theorem Written.modifyBU {old new : BuEntry} (found : mn.findBU dest = some old)
    (addr : new.addr = dest) : Written mn mn new (mn.modifyBU dest fun _ => new) := by
  have keeps : ∀ bue : BuEntry, bue.addr = dest → new.addr = dest := fun _ _ => addr
  refine ⟨?_, BindingUpdateList.Distinct.modifyBU keeps, rfl⟩
  intro other
  change BindingUpdateList.findBU (BindingUpdateList.modifyBU dest _ mn.bul) other = _
  rw [BindingUpdateList.findBU_modifyBU keeps, addr]
  congr 1
  change (mn.findBU dest).map _ = _
  rw [found, Option.map_some]

theorem Written.addBU {bul : BindingUpdateList}
    (adds : mn.bul.addBU new = .ok bul) : Written mn mn new { mn with bul } := by
  obtain ⟨absent, rfl⟩ := BindingUpdateList.addBU_eq_ok.mp adds
  refine ⟨?_, fun distinct => distinct.append absent, rfl⟩
  intro other
  change BindingUpdateList.findBU (mn.bul ++ [new]) other = _
  rw [BindingUpdateList.findBU_append]
  split
  · rename_i same
    rw [← same, absent, Option.none_or]
  · rw [Option.or_none]
    rfl

/-- What sending a Binding Update leaves of the entry that it is sent from. -/
structure Updated (now : ℚ) (coa hoa : Ipv6Addr) (old : Option BuEntry) (new : BuEntry) : Prop where
  careOfAddr : new.careOfAddr = coa
  lastTimeSent : new.lastTimeSent = now + selfScheduleDelay
  homeAddr : new.homeAddr = (old.map (·.homeAddr)).getD hoa
  hotiRetransTmr : new.hotiRetransTmr = old.bind (·.hotiRetransTmr)
  cotiRetransTmr : new.cotiRetransTmr = old.bind (·.cotiRetransTmr)
  homeNI : new.homeNI = (old.map (·.homeNI)).getD 0 ∨ new.homeNI = 0

variable {bule : Option BuEntry} {seq : BitVec 32} {ack : Bool}

theorem updateBule_updated (updates : mn.updateBule bule dest coa hoa lifetime seq ack homeReg mapReg = .ok mn') :
    ∃ bul, mn' = { mn with bul } := by
  cases bule with
  | none =>
      obtain ⟨bul, -, rest⟩ := bind_eq_ok.mp updates
      cases rest
      exact ⟨bul, rfl⟩
  | some bue =>
      cases updates
      exact ⟨_, rfl⟩

theorem updateBule_written (present : ∀ bue, bule = some bue → ∃ old, mn.findBU bue.addr = some old)
    (updates : mn.updateBule bule dest coa hoa lifetime seq ack homeReg mapReg = .ok mn') :
    ∃ new, new.addr = (bule.map (·.addr)).getD dest ∧ new.sequence = seq ∧
      new.lifetime = BitVec.ofNat 16 lifetime ∧ new.expires = BitVec.ofNat 16 lifetime ∧
      new.state = (bule.map (·.state)).getD 0 + (if ack then 1 else 0) ∧ Written mn mn new mn' ∧
      Updated mn.now coa hoa bule new := by
  cases bule with
  | none =>
      obtain ⟨bul, adds, rest⟩ := bind_eq_ok.mp updates
      cases rest
      refine ⟨_, ?_, ?_, ?_, ?_, ?_, Written.addBU adds, ?_, ?_, ?_, ?_, ?_, ?_⟩
      case refine_11 => cases ack <;> exact Or.inr rfl
      all_goals cases ack <;> rfl
  | some bue =>
      obtain ⟨old, found⟩ := present bue rfl
      cases updates
      refine ⟨bue.update coa lifetime seq ack (mn.now + selfScheduleDelay), BuEntry.update_addr,
        rfl, BuEntry.update_lifetime, BuEntry.update_expires, BuEntry.update_state,
        Written.modifyBU found BuEntry.update_addr, rfl, rfl, ?_, ?_, ?_, ?_⟩
      case refine_4 => cases ack <;> exact Or.inl rfl
      all_goals cases ack <;> rfl

/-- What is left when a Binding Update was sent: `old` is the entry that it was sent from and `new`
the entry afterwards. -/
structure Sent (mn : MobileNode) (dest coa hoa : Ipv6Addr) (homeReg mapReg : Bool)
    (dgram : MobilityDatagram BU) (old : Option BuEntry) (new : BuEntry) (mn' : MobileNode) : Prop where
  destAddress : dgram.destAddress = dest
  srcAddress : dgram.srcAddress = coa
  homeAddressOpt : dgram.homeAddressOpt = some hoa
  homereg : dgram.encapsulatedMsg.homereg = homeReg
  ack : dgram.encapsulatedMsg.ack = (homeReg || mapReg || mn.sendBUAckFlag)
  found : mn.findBuleFor dest = old
  addr : new.addr = mn.bulAddr dest
  sequence : new.sequence = (old.map (·.sequence + 1)).getD 0
  sent : dgram.encapsulatedMsg.sequence = new.sequence.setWidth 16
  lifetime : new.lifetime = dgram.encapsulatedMsg.expires
  expires : new.expires = dgram.encapsulatedMsg.expires
  state : new.state = (old.map (·.state)).getD 0 + if dgram.encapsulatedMsg.ack then 1 else 0
  written : Written mn (if dgram.encapsulatedMsg.ack then mn.startTmr old dgram else mn) new mn'
  updated : Updated mn.now coa hoa old new
  settings : ∃ bul buRetranTmrs, mn' = { mn with bul, buRetranTmrs }

variable {dgram : MobilityDatagram BU}

theorem startTmr_congr {old bule : Option BuEntry}
    (same : bule.map (·.state) = old.map (·.state)) : mn.startTmr bule dgram = mn.startTmr old dgram := by
  unfold startTmr
  cases bule with
  | none =>
      cases old with
      | none => rfl
      | some _ => cases same
  | some bue =>
      cases old with
      | none => cases same
      | some bue' =>
          have state : bue.state = bue'.state := Option.some.inj same
          simp only [Option.isSome_some, Option.all_some, state]

theorem startTmr_bul : (mn.startTmr bule dgram).bul = mn.bul := by
  unfold startTmr
  dsimp only
  split
  · rfl
  · split <;> rfl

theorem startTmr_eq : ∃ buRetranTmrs, mn.startTmr bule dgram = { mn with buRetranTmrs } := by
  unfold startTmr
  dsimp only
  split
  · exact ⟨_, rfl⟩
  · split
    · exact ⟨_, rfl⟩
    · exact ⟨_, rfl⟩

theorem startTmr_timers {tmr : BURetranTmr} (member : tmr ∈ (mn.startTmr bule dgram).buRetranTmrs) :
    tmr ∈ mn.buRetranTmrs ∨ tmr.dgram = dgram := by
  unfold startTmr at member
  dsimp only at member
  split at member
  · rcases List.mem_append.mp member with before | last
    · exact Or.inl before
    · rw [List.mem_singleton.mp last]
      exact Or.inr rfl
  · split at member
    · rcases List.mem_or_eq_of_mem_set member with before | same
      · exact Or.inl before
      · rw [same]
        exact Or.inr rfl
    · exact Or.inl member

theorem Sent.timers {old : Option BuEntry}
    {tmr : BURetranTmr} (sending : Sent mn dest coa hoa homeReg mapReg dgram old new mn')
    (member : tmr ∈ mn'.buRetranTmrs) : tmr ∈ mn.buRetranTmrs ∨ tmr.dgram = dgram := by
  rw [sending.written.timers] at member
  split at member
  · exact startTmr_timers member
  · exact Or.inl member

variable {sent : Option (MobilityDatagram BU)}

theorem sendBU_cases (sends : mn.sendBU dest coa hoa lifetime homeReg mapReg timestamp = .ok (sent, mn')) :
    (sent = none ∧ mn' = mn) ∨
      ∃ dgram old new, sent = some dgram ∧ Sent mn dest coa hoa homeReg mapReg dgram old new mn' := by
  unfold sendBU at sends
  obtain ⟨_, -, rest⟩ := bind_eq_ok.mp sends
  split at rest
  · cases rest
    exact Or.inl ⟨rfl, rfl⟩
  · right
    obtain ⟨⟨ni, ebu, bule⟩, nonces, rest⟩ := bind_eq_ok.mp rest
    obtain ⟨_, -, rest⟩ := bind_eq_ok.mp rest
    obtain ⟨updated, updates, rest⟩ := bind_eq_ok.mp rest
    cases rest
    have prepared : bule.map (·.addr) = (mn.findBuleFor dest).map (·.addr) ∧
        bule.map (·.state) = (mn.findBuleFor dest).map (·.state) ∧
        ∀ new, Updated mn.now coa hoa bule new → Updated mn.now coa hoa (mn.findBuleFor dest) new := by
      split at nonces
      · obtain ⟨bue, homeNI, found, rfl, spent⟩ := nonceIndices_keeps nonces
        rw [found]
        refine ⟨rfl, rfl, fun new updated => ?_⟩
        refine ⟨updated.careOfAddr, updated.lastTimeSent, updated.homeAddr, updated.hotiRetransTmr,
          updated.cotiRetransTmr, ?_⟩
        rcases spent with rfl | rfl
        · exact updated.homeNI
        · exact Or.inr (updated.homeNI.elim id id)
      · cases nonces
        exact ⟨rfl, rfl, fun _ => id⟩
    obtain ⟨addr, state, keeps⟩ := prepared
    rw [startTmr_congr state] at updates
    generalize base : (if (homeReg || mapReg || mn.sendBUAckFlag) = true then _ else mn) = before
      at updates
    have bul : before.bul = mn.bul := by
      rw [← base]
      split
      · exact startTmr_bul
      · rfl
    have timed : ∃ buRetranTmrs, before = { mn with buRetranTmrs } := by
      rw [← base]
      split
      · exact startTmr_eq
      · exact ⟨_, rfl⟩
    have present : ∀ bue, bule = some bue → ∃ old, before.findBU bue.addr = some old := by
      rintro bue rfl
      obtain ⟨old, found, same⟩ := Option.map_eq_some_iff.mp addr.symm
      refine ⟨old, ?_⟩
      change old.addr = bue.addr at same
      rw [MobileNode.findBU, bul, ← same]
      exact findBuleFor_addr found
    obtain ⟨new, new_addr, sequence, granted, expires, new_state, written, updated'⟩ :=
      updateBule_written present updates
    obtain ⟨buRetranTmrs, timed⟩ := timed
    obtain ⟨bul', settled⟩ := updateBule_updated updates
    refine ⟨_, mn.findBuleFor dest, new, rfl, rfl, rfl, rfl, rfl, rfl, rfl, ?_, ?_, ?_, ?_, ?_, ?_, ?_,
      ?_, ?_⟩
    · rw [new_addr, addr]
      rfl
    · exact sequence
    · rw [sequence]
    · exact granted
    · exact expires
    · rw [new_state, state]
    · change Written mn (if (homeReg || mapReg || mn.sendBUAckFlag) = true then _ else mn) new mn'
      rw [base]
      exact written.of_bul bul
    · rw [timed] at updated'
      exact keeps new updated'
    · rw [settled, timed]
      exact ⟨_, _, rfl⟩

theorem updateBule_ok (absent : bule = none → mn.findBU dest = none) :
    ∃ mn', mn.updateBule bule dest coa hoa lifetime seq ack homeReg mapReg = .ok mn' ∧
      mn'.now = mn.now ∧ mn'.signalingEnhance = mn.signalingEnhance := by
  cases bule with
  | none =>
      unfold updateBule
      dsimp only
      rw [BindingUpdateList.addBU_eq_ok.mpr ⟨?_, rfl⟩]
      · exact ⟨_, rfl, rfl, rfl⟩
      · cases ack <;> exact absent rfl
  | some bue => exact ⟨_, rfl, rfl, rfl⟩

theorem startTmr_settings : (mn.startTmr bule dgram).now = mn.now ∧
      (mn.startTmr bule dgram).signalingEnhance = mn.signalingEnhance := by
  unfold startTmr
  dsimp only
  split
  · exact ⟨rfl, rfl⟩
  · split <;> exact ⟨rfl, rfl⟩

theorem startTmr_updateBule (absent : bule = none → mn.findBU dest = none) :
    ∃ mn', (mn.startTmr bule dgram).updateBule bule dest coa hoa lifetime seq ack homeReg mapReg =
        .ok mn' ∧ mn'.now = mn.now ∧ mn'.signalingEnhance = mn.signalingEnhance := by
  have still : bule = none → (mn.startTmr bule dgram).findBU dest = none := by
    intro none
    rw [findBU, startTmr_bul]
    exact absent none
  obtain ⟨mn', updates, now, signalingEnhance⟩ := updateBule_ok still
  exact ⟨mn', updates, now.trans startTmr_settings.1, signalingEnhance.trans startTmr_settings.2⟩

theorem sendBU_home (moved : ∀ bule, mn.findBuleFor dest = some bule → bule.careOfAddr ≠ coa) :
    ∃ dgram mn', mn.sendBU dest coa hoa lifetime true false 0 = .ok (some dgram, mn') ∧
      dgram.timestamp = mn.now ∧ mn'.now = mn.now ∧ mn'.signalingEnhance = mn.signalingEnhance := by
  have unlimited : ¬ ((mn.findBuleFor dest).any fun bule =>
      bule.careOfAddr = coa ∧ mn.now - bule.lastTimeSent < maxUpdateRate) = true := by
    rw [Option.any_eq_true]
    rintro ⟨bule, found, limited⟩
    exact moved bule found (of_decide_eq_true limited).1
  unfold sendBU
  dsimp only
  rw [assert_pos (by simp), ok_bind, if_neg unlimited]
  simp only [Bool.not_true, Bool.false_and, Bool.true_or, Bool.false_eq_true, if_false, if_true,
    ok_bind]
  rw [assert_pos (by simp), ok_bind]
  generalize ((mn.findBuleFor dest).map fun bule => bule.sequence + 1).getD 0 = seq
  generalize dgram_eq : (⟨coa, dest, some hoa, -1, mn.now, _⟩ : MobilityDatagram BU) = dgram
  have sending : ∃ mn', (mn.startTmr (mn.findBuleFor dest) dgram).updateBule (mn.findBuleFor dest)
        dest coa hoa (min lifetime 65535) seq true true false = .ok mn' ∧
      mn'.now = mn.now ∧ mn'.signalingEnhance = mn.signalingEnhance :=
    startTmr_updateBule findBuleFor_none
  obtain ⟨mn', updates, settings⟩ := sending
  rw [updates]
  exact ⟨dgram, mn', rfl, dgram_eq ▸ rfl, settings⟩

theorem retransmitBU_cases {i : Nat} (fires : mn.retransmitBU i = .ok (sent, mn')) :
    ∃ tmr, mn.buRetranTmrs[i]? = some tmr ∧ ((tmr.dgram.destAddress = .unspecified ∨
          tmr.timeout < maxBindackTimeout ∧ mn.findBU tmr.dgram.destAddress = none) ∧
          sent = none ∧ mn' = mn.removeBURetranTmr i ∨
        (∃ bule dgram timeout scheduled, tmr.dgram.destAddress ≠ .unspecified ∧
          mn.findBU tmr.dgram.destAddress = some bule ∧ sent = some dgram ∧
          dgram = tmr.dgram.setSequence ((bule.sequence + 1).setWidth 16) ∧
          mn' = (mn.modifyBU tmr.dgram.destAddress fun _ => bule.resend mn.now).setTmr i
            ⟨timeout, dgram, scheduled⟩) ∨ sent = none ∧ tmr.dgram.destAddress ≠ .unspecified ∧
          mn' = (mn.modifyBU tmr.dgram.destAddress BuEntry.giveUp).removeBURetranTmr i) := by
  unfold retransmitBU at fires
  obtain ⟨tmr, place, rest⟩ := bind_eq_ok.mp fires
  refine ⟨tmr, (deref_eq_ok _ _ _).mp place, ?_⟩
  dsimp only at rest
  split at rest
  · rename_i unspecified
    cases rest
    exact Or.inl ⟨Or.inl unspecified, rfl, rfl⟩
  · rename_i specified
    split at rest
    · rename_i early
      split at rest
      · rename_i absent
        cases rest
        exact Or.inl ⟨Or.inr ⟨early, absent⟩, rfl, rfl⟩
      · rename_i bule found
        cases rest
        exact Or.inr (Or.inl ⟨bule, _, _, _, specified, found, rfl, rfl, rfl⟩)
    · obtain ⟨_, -, rest⟩ := bind_eq_ok.mp rest
      obtain ⟨_, -, rest⟩ := bind_eq_ok.mp rest
      cases rest
      exact Or.inr (Or.inr ⟨rfl, specified, rfl⟩)

theorem retransmitBU_timers {i : Nat} {tmr : BURetranTmr}
    (fires : mn.retransmitBU i = .ok (sent, mn')) (member : tmr ∈ mn'.buRetranTmrs) :
    tmr ∈ mn.buRetranTmrs ∨ sent = some tmr.dgram := by
  obtain ⟨fired, -, ⟨-, -, rfl⟩ | ⟨bule, dgram, timeout, scheduled, -, -, rfl, -, rfl⟩ | ⟨-, -, rfl⟩⟩ :=
    retransmitBU_cases fires
  · exact Or.inl (List.mem_of_mem_eraseIdx member)
  · rcases List.mem_or_eq_of_mem_set member with before | same
    · exact Or.inl before
    · rw [same]
      exact Or.inr rfl
  · exact Or.inl (List.mem_of_mem_eraseIdx member)

/-- The timer of an acknowledged Binding Update is removed, and nothing else of the lists changes. -/
theorem stopTmr_ok {srcAddress : Ipv6Addr} (stops : mn.stopTmr srcAddress = .ok mn') :
    mn'.bul = mn.bul ∧ mn'.buRetranTmrs =
      match mn.findTmr srcAddress with
      | none => mn.buRetranTmrs
      | some i => mn.buRetranTmrs.eraseIdx i := by
  unfold stopTmr at stops
  split at stops
  · rename_i absent
    cases stops
    exact ⟨rfl, rfl⟩
  · obtain ⟨tmr, -, rest⟩ := bind_eq_ok.mp stops
    obtain ⟨home, returns, rest⟩ := bind_eq_ok.mp rest
    cases rest
    split at returns
    · obtain ⟨ha, -, rest⟩ := bind_eq_ok.mp returns
      cases rest
      split <;> exact ⟨rfl, rfl⟩
    · cases returns
      exact ⟨rfl, rfl⟩

variable {ba : BA}

/-- An acknowledgement is ignored, or its timer is stopped and its entry, if there is one, gets what
the acknowledgement says. -/
theorem processBA_cases {srcAddress : Ipv6Addr} {accepted : Bool}
    (acknowledges : mn.processBA ba srcAddress = .ok (accepted, mn')) :
    (∃ bue, mn.findBU srcAddress = some bue ∧ ba.sequence.setWidth 32 ≠ bue.sequence ∧
      accepted = false ∧ mn' = mn) ∨
      ∃ stopped, mn.stopTmr srcAddress = .ok stopped ∧ (accepted = true ↔ ba.status = .accepted) ∧
        (mn.findBU srcAddress = none ∧ mn' = stopped ∨
          ∃ bue, mn.findBU srcAddress = some bue ∧ ba.sequence.setWidth 32 = bue.sequence ∧
            ((∃ bue', acknowledged bue ba = some bue' ∧ mn' = stopped.modifyBU srcAddress fun _ => bue') ∨
              acknowledged bue ba = none ∧ mn' = { stopped with bul := stopped.bul.removeBU srcAddress })) := by
  unfold processBA at acknowledges
  dsimp only at acknowledges
  split at acknowledges
  · rename_i ignored
    obtain ⟨bue, found, differs⟩ := (Option.any_eq_true _ _).mp ignored
    cases acknowledges
    exact Or.inl ⟨bue, found, of_decide_eq_true differs, rfl, rfl⟩
  · rename_i matched
    rw [Bool.not_eq_true, Option.any_eq_false] at matched
    obtain ⟨stopped, stops, rest⟩ := bind_eq_ok.mp acknowledges
    obtain ⟨_, -, rest⟩ := bind_eq_ok.mp rest
    refine Or.inr ⟨stopped, stops, ?_⟩
    cases entry : mn.findBU srcAddress with
    | none =>
        rw [entry] at rest
        cases rest
        exact ⟨decide_eq_true_iff, Or.inl ⟨rfl, rfl⟩⟩
    | some bue =>
        have latest : ba.sequence.setWidth 32 = bue.sequence :=
          Decidable.of_not_not (of_decide_eq_false (matched bue entry))
        rw [entry] at rest
        dsimp only at rest
        split at rest
        · rename_i bue' updated
          cases rest
          exact ⟨decide_eq_true_iff, Or.inr ⟨bue, rfl, latest, Or.inl ⟨bue', updated, rfl⟩⟩⟩
        · rename_i removed
          cases rest
          exact ⟨decide_eq_true_iff, Or.inr ⟨bue, rfl, latest, Or.inr ⟨removed, rfl⟩⟩⟩

theorem processBA_timers {srcAddress : Ipv6Addr} {accepted : Bool} {tmr : BURetranTmr}
    (acknowledges : mn.processBA ba srcAddress = .ok (accepted, mn'))
    (member : tmr ∈ mn'.buRetranTmrs) : tmr ∈ mn.buRetranTmrs := by
  rcases processBA_cases acknowledges with ⟨-, -, -, -, rfl⟩ | ⟨stopped, stops, -, rest⟩
  · exact member
  · have kept : mn'.buRetranTmrs = stopped.buRetranTmrs := by
      obtain ⟨-, rfl⟩ | ⟨bue, -, -, ⟨bue', -, rfl⟩ | ⟨-, rfl⟩⟩ := rest <;> rfl
    rw [kept, (stopTmr_ok stops).2] at member
    split at member
    · exact member
    · exact List.mem_of_mem_eraseIdx member

theorem snd_map_eq_ok {α : Type} {call : Exec (α × MobileNode)} (returns : (·.2) <$> call = .ok mn') :
    ∃ reply, call = .ok (reply, mn') := by
  cases call with
  | error fault => cases returns
  | ok result =>
      cases returns
      exact ⟨result.1, rfl⟩

theorem acknowledged_addr {bue bue' : BuEntry} (updated : acknowledged bue ba = some bue') :
    bue'.addr = bue.addr := by
  unfold acknowledged at updated
  split at updated
  · dsimp only at updated
    split at updated <;> · cases updated; rfl
  · split at updated <;> · cases updated; rfl
  · cases updated

theorem resend_addr {bule : BuEntry} {now : ℚ} (found : mn.findBU dest = some bule) :
    (bule.resend now).addr = dest := by
  have same : bule.addr = dest := BindingUpdateList.findBU_addr found
  exact same

/-- A node that was started with no entries and no timers -/
def Reachable (mn : MobileNode) : Prop :=
  ∃ start es, start.bul = [] ∧ start.buRetranTmrs = [] ∧
    Runs step (fun _ _ => True) start es mn

theorem distinct_step {e : MobileNodeEvent} (distinct : mn.bul.Distinct)
    (steps : mn.step e = .ok mn') : mn'.bul.Distinct := by
  cases e with
  | wait now =>
      cases steps
      exact distinct
  | bindings bc =>
      cases steps
      exact distinct
  | routability dest homeNI careOfNI hoti coti =>
      cases steps
      exact distinct.modifyBU fun _ same => same
  | sendBU dest coa hoa lifetime homeReg mapReg timestamp =>
      obtain ⟨sent, sends⟩ := snd_map_eq_ok steps
      rcases sendBU_cases sends with ⟨-, rfl⟩ | ⟨dgram, old, new, -, sending⟩
      · exact distinct
      · exact sending.written.distinct distinct
  | retransmitBU i =>
      obtain ⟨sent, fires⟩ := snd_map_eq_ok steps
      obtain ⟨tmr, -, ⟨-, -, rfl⟩ | ⟨bule, dgram, timeout, scheduled, -, found, -, -, rfl⟩ | ⟨-, -, rfl⟩⟩ :=
        retransmitBU_cases fires
      · exact distinct
      · exact distinct.modifyBU fun _ _ => resend_addr found
      · exact distinct.modifyBU fun _ same => same
  | processBA ba srcAddress =>
      obtain ⟨accepted, acknowledges⟩ := snd_map_eq_ok steps
      rcases processBA_cases acknowledges with ⟨-, -, -, -, rfl⟩ | ⟨stopped, stops, -, rest⟩
      · exact distinct
      · have kept : stopped.bul.Distinct := (stopTmr_ok stops).1 ▸ distinct
        obtain ⟨-, rfl⟩ | ⟨bue, found, -, ⟨bue', updated, rfl⟩ | ⟨-, rfl⟩⟩ := rest
        · exact kept
        · exact kept.modifyBU fun _ _ =>
            (acknowledged_addr updated).trans (BindingUpdateList.findBU_addr found)
        · exact kept.removeBU
  | processBE srcAddress =>
      cases steps
      exact distinct.removeBU
  | expireLifetimes =>
      cases steps
      exact distinct.expireLifetimes

theorem Reachable.create (homeAddr ha : Ipv6Addr) : (MobileNode.create homeAddr ha).Reachable :=
  ⟨MobileNode.create homeAddr ha, [], rfl, rfl, .nil _⟩

theorem Reachable.distinct (reachable : mn.Reachable) : mn.bul.Distinct := by
  obtain ⟨start, es, bul, -, runs⟩ := reachable
  have empty : start.bul.Distinct := by
    rw [bul]
    exact List.nodup_nil
  exact runs.invariant (fun mn => mn.bul.Distinct) (fun _ _ _ distinct _ => distinct_step distinct) empty

/-- In every run the binding update list has one entry for a destination at most, so that none is left when an error
removes it. -/
theorem removeBU_of_reachable (reachable : mn.Reachable) :
    mn.bul.Distinct ∧ ∀ dest, (mn.bul.removeBU dest).findBU dest = none :=
  ⟨reachable.distinct, fun _ => reachable.distinct.findBU_removeBU_same⟩

theorem removeBU_after_sendBU : ∃ mn, (create ⟨1, 0, 0, 1⟩ ⟨1, 0, 0, 2⟩).step
    (.sendBU ⟨1, 0, 0, 2⟩ ⟨2, 0, 0, 1⟩ ⟨1, 0, 0, 1⟩ 10 true false 0) = .ok mn ∧ mn.bul.length = 1 ∧
      ∀ dest, (mn.bul.removeBU dest).findBU dest = none := by
  obtain ⟨mn, sends, one⟩ : ∃ mn, (create ⟨1, 0, 0, 1⟩ ⟨1, 0, 0, 2⟩).step
      (.sendBU ⟨1, 0, 0, 2⟩ ⟨2, 0, 0, 1⟩ ⟨1, 0, 0, 1⟩ 10 true false 0) = .ok mn ∧ mn.bul.length = 1 :=
    ⟨_, rfl, rfl⟩
  exact ⟨mn, sends, one, (removeBU_of_reachable ⟨_, _, rfl, rfl, .cons trivial sends (.nil _)⟩).2⟩

end MobileNode

end IPv6Suite
