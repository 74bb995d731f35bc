import IPv6Suite.Lib.Exec
import IPv6Suite.MobilityHeaders

namespace IPv6Suite

open Lib

def initialBindackTimeoutFirstreg : ℚ := 3 / 2
def initialBindackTimeout : ℚ := 1
def maxBindackTimeout : Nat := 32

/-- The source divides integers, so that the rate is not limited. -/
def maxUpdateRate : ℚ := 0

def selfScheduleDelay : ℚ := 1 / 1000000

/-- A timer for a test init message, with the time it is scheduled for and the arguments that are
bound to its callback -/
structure TIRetransTmr where
  scheduled : Option ℚ
  dest : Ipv6Addr
  coa : Ipv6Addr
  timestamp : ℚ
deriving DecidableEq

namespace TIRetransTmr

/-- Nothing is bound yet. -/
def create : TIRetransTmr := ⟨none, .unspecified, .unspecified, 0⟩

def isScheduled (tmr : TIRetransTmr) : Bool := tmr.scheduled.isSome

def remainingTime (tmr : TIRetransTmr) (now : ℚ) : ℚ := tmr.scheduled.getD 0 - now

end TIRetransTmr

/-- A binding update list entry. `state` counts the Binding Updates that are not acknowledged. -/
structure BuEntry where
  addr : Ipv6Addr
  homeAddr : Ipv6Addr
  careOfAddr : Ipv6Addr
  lifetime : BitVec 16
  expires : BitVec 16
  lastTimeSent : ℚ
  state : BitVec 32
  sequence : BitVec 32
  homeReg : Bool
  problem : Bool
  mapReg : Bool
  hotiRetransTmr : Option TIRetransTmr
  cotiRetransTmr : Option TIRetransTmr
  homeNI : BitVec 16
  careOfNI : BitVec 16
  homeInitTimeout : ℚ
  careOfInitTimeout : ℚ
  homeCookie : BitVec 32
  careOfCookie : BitVec 32
  buReceived : Bool
deriving DecidableEq

namespace BuEntry

def create (dest hoa coa : Ipv6Addr) (olifetime : Nat) (seq : BitVec 32) (lastTime : ℚ)
    (homeReg mapReg : Bool) : BuEntry where
  addr := dest
  homeAddr := hoa
  careOfAddr := coa
  lifetime := BitVec.ofNat 16 olifetime
  expires := BitVec.ofNat 16 olifetime
  lastTimeSent := lastTime
  state := 0
  sequence := seq
  homeReg
  problem := false
  mapReg
  hotiRetransTmr := none
  cotiRetransTmr := none
  homeNI := 0
  careOfNI := 0
  homeInitTimeout := 0
  careOfInitTimeout := 0
  homeCookie := 0
  careOfCookie := 0
  buReceived := false

def setExpires (bue : BuEntry) (exp : BitVec 32) : BuEntry :=
  { bue with expires := exp.setWidth 16 }

def setLifetime (bue : BuEntry) (life : BitVec 32) : BuEntry :=
  let bue := { bue with lifetime := life.setWidth 16 }
  bue.setExpires (bue.lifetime.setWidth 32)

/-- The home test timer is always scheduled for an early Binding Update. -/
def ebuWaitingOnHOT (bue : BuEntry) (now : ℚ) : Bool :=
  bue.hotiRetransTmr.any fun tmr => tmr.isScheduled ∧ tmr.remainingTime now ≤ bue.homeInitTimeout

def isPerformingRR (bue : BuEntry) (earlyBU : Bool) (now : ℚ) : Bool :=
  if earlyBU then bue.cotiRetransTmr.any (·.isScheduled) || bue.ebuWaitingOnHOT now
  else
    match bue.cotiRetransTmr, bue.hotiRetransTmr with
    | some coti, some hoti => coti.isScheduled || hoti.isScheduled
    | _, _ => false

def tentativeBinding (bue : BuEntry) (now : ℚ) : Bool :=
  bue.isPerformingRR true now && bue.careOfNI = 0

/-- `testSuccess()` reads the second timer only if the first one is not scheduled. -/
def testSuccess (bue : BuEntry) : Exec Bool := do
  let hoti ← Exec.deref .nullDeref bue.hotiRetransTmr
  if hoti.isScheduled then return false
  else do
    let coti ← Exec.deref .nullDeref bue.cotiRetransTmr
    return !coti.isScheduled && bue.homeNI ≠ 0 && bue.careOfNI ≠ 0

/-- The entry after another Binding Update is sent from it. -/
def update (bule : BuEntry) (coa : Ipv6Addr) (lifetime : Nat) (seq : BitVec 32) (ack : Bool)
    (lastTime : ℚ) : BuEntry :=
  let bule := if ack then { bule with state := bule.state + 1 } else bule
  { bule.setLifetime (BitVec.ofNat 32 lifetime) with
    sequence := seq
    careOfAddr := coa
    lastTimeSent := lastTime }

def resend (bule : BuEntry) (now : ℚ) : BuEntry :=
  { bule with state := bule.state + 1, sequence := bule.sequence + 1, lastTimeSent := now }

/-- The entry after its Binding Update was not acknowledged in time. -/
def giveUp (bule : BuEntry) : BuEntry := { bule with problem := true, state := 0 }

section Update

variable {bule : BuEntry} {coa : Ipv6Addr} {lifetime : Nat} {seq : BitVec 32} {ack : Bool}
  {lastTime : ℚ}

theorem update_addr : (bule.update coa lifetime seq ack lastTime).addr = bule.addr := by
  cases ack <;> rfl

theorem update_state : (bule.update coa lifetime seq ack lastTime).state =
    bule.state + if ack then 1 else 0 := by
  cases ack with
  | false => exact (BitVec.add_zero _).symm
  | true => rfl

theorem update_lifetime : (bule.update coa lifetime seq ack lastTime).lifetime = BitVec.ofNat 16 lifetime := by
  change (BitVec.ofNat 32 lifetime).setWidth 16 = _
  apply BitVec.eq_of_toNat_eq
  simp only [BitVec.toNat_setWidth, BitVec.toNat_ofNat]
  omega

theorem update_expires : (bule.update coa lifetime seq ack lastTime).expires = BitVec.ofNat 16 lifetime := by
  change (((BitVec.ofNat 32 lifetime).setWidth 16).setWidth 32).setWidth 16 = _
  apply BitVec.eq_of_toNat_eq
  simp only [BitVec.toNat_setWidth, BitVec.toNat_ofNat]
  omega

end Update

end BuEntry

end IPv6Suite
