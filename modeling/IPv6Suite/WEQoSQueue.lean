import IPv6Suite.Lib.Exec
import IPv6Suite.NDEntry
import Mathlib.Data.BitVec
import Mathlib.Data.Rat.Floor

namespace IPv6Suite

abbrev MACAddress6 := BitVec 48

namespace MACAddress6

def broadcast : MACAddress6 := BitVec.allOnes 48

def unspecified : MACAddress6 := 0

end MACAddress6

inductive SubType where
  | associationRequest
  | associationResponse
  | reAssociationRequest
  | reAssociationResponse
  | probeRequest
  | probeResponse
  | beacon
  | disAssociation
  | authentication
  | deAuthentication
  | data
  | rts
  | cts
  | ack
deriving DecidableEq

inductive ReceiveMode where
  | unspecified
  | activeScan
  | passiveScan
  | authentication
  | association
  | data
  | ack
  | monitor
  | assRspAckWait
  | authRspAckWait
deriving DecidableEq

/-- The access category of a frame, `AC_BK = 0` up to `AC_VO = 3` -/
abbrev AppType := Fin 4

instance appTypes : NeZero 4 := ⟨by decide⟩

namespace AppType

def bestEffort : AppType := 1

def voice : AppType := 3

end AppType

/-- A data or a management frame. The encapsulated message is told apart by its identity. -/
structure WirelessEtherFrame where
  subtype : SubType
  toDS : Bool
  fromDS : Bool
  retry : Bool
  address1 : MACAddress6
  address2 : MACAddress6
  address3 : MACAddress6
  sequenceNumber : BitVec 16
  appType : AppType
  encapsulatedMsg : Option Nat
deriving DecidableEq

/-- An `ST_ACK` frame has one address only. -/
structure AckFrame where
  address1 : MACAddress6
deriving DecidableEq

open Lib

/-- `SLOTTIME` -/
def slotTime : SimTime := 1 / 50000

def SIFS : SimTime := 1 / 100000

/-- `PRECERROR` -/
def precError : SimTime := 1 / 100000000

/-- `RXTXTURNAROUND` -/
def rxTxTurnaround : SimTime := 1 / 200000

/-! ### The constants of an access category -/

namespace AppType

def AIFS : AppType → SimTime
  | 0 => 7 * slotTime + SIFS
  | 1 => 7 * slotTime + SIFS
  | 2 => 4 * slotTime + SIFS
  | 3 => 2 * slotTime + SIFS

def CWmin : AppType → Nat
  | 0 => 63
  | 1 => 63
  | 2 => 31
  | 3 => 15

def CWmax : AppType → Nat
  | 0 => 1023
  | 1 => 1023
  | 2 => 127
  | 3 => 63

def retryLimit : AppType → Nat
  | 0 => 5
  | 1 => 5
  | 2 => 3
  | 3 => 3

end AppType

structure AccessCategoryQ where
  queue : List WirelessEtherFrame
  readyFrame : Option WirelessEtherFrame
  contentionStartTime : SimTime
  timeToSend : SimTime
  CW : Nat
  backoffSlots : Nat
  retry : Nat
deriving DecidableEq

/-- What is stored in an `unsigned int` -/
def uint (x : Int) : Nat := (x % 2 ^ 32).toNat

namespace AccessCategoryQ

/-- `resetParamsForQ` -/
def resetParams (a : AccessCategoryQ) (AC : AppType) : AccessCategoryQ :=
  { a with CW := AC.CWmin, backoffSlots := 0, retry := 0, contentionStartTime := 0, timeToSend := 0 }

/-- `intuniform(0, CW)` is `rand` reduced to that range. -/
def calculateTimeToSend (a : AccessCategoryQ) (AC : AppType) (rand : Nat) : Exec AccessCategoryQ := do
  Exec.assert (AC.CWmin ≤ a.CW ∧ a.CW ≤ AC.CWmax)
  let backoffSlots := rand % (a.CW + 1)
  return { a with backoffSlots, timeToSend := backoffSlots * slotTime + AC.AIFS }

def prepareNextFrame (a : AccessCategoryQ) (AC : AppType) (time : SimTime) (rand : Nat) : Exec AccessCategoryQ :=
  let a := { a.resetParams AC with readyFrame := none }
  match a.queue with
  | [] => .ok a
  | frame :: queue => do
      let a ← { a with readyFrame := some frame, queue }.calculateTimeToSend AC rand
      return { a with contentionStartTime := time }

/-- `initiateRetryForQ`, with whether the frame is tried again -/
def initiateRetry (a : AccessCategoryQ) (AC : AppType) (time : SimTime) (rand : Nat) :
    Exec (Bool × AccessCategoryQ) :=
  match a.readyFrame with
  | none => .error .assertFailed
  | some frame => do
      let a := { a with retry := a.retry + 1 }
      if AC.retryLimit < a.retry ∨ frame.address1 = MACAddress6.broadcast then
        let a ← a.prepareNextFrame AC time rand
        return (false, a)
      else
        let a := { a with CW := if a.CW < AC.CWmax then a.CW * 2 + 1 else a.CW }
        let a ← a.calculateTimeToSend AC rand
        return (true, { a with readyFrame := some { frame with retry := true }, contentionStartTime := time })

/-- The loop body of `contentionInterrupted` and of `sendingReadyFrame`: the slots that have elapsed are deducted. -/
def deductElapsed (a : AccessCategoryQ) (AC : AppType) (time : SimTime) : Exec AccessCategoryQ := do
  Exec.assert (0 < a.timeToSend)
  let timeElapsed := time - a.contentionStartTime
  if AC.AIFS < timeElapsed then
    let slotsElapsed := ⌊(timeElapsed - AC.AIFS) / slotTime⌋
    let a := { a with
      backoffSlots := uint (a.backoffSlots - slotsElapsed)
      timeToSend := a.timeToSend - slotsElapsed * slotTime }
    let remSlot := timeElapsed - AC.AIFS - slotsElapsed * slotTime
    Exec.assert (remSlot < slotTime)
    if slotTime - remSlot < precError then
      return { a with backoffSlots := uint (a.backoffSlots - 1), timeToSend := a.timeToSend - slotTime }
    else return a
  else return a

end AccessCategoryQ

/-- `servedQ` is `none` where the source has -1. `backoffTimer` is that of the module, with its arrival time. -/
structure WEQoSQueue where
  maxQueueSize : Int
  readyQSending : Bool
  contentionStart : Bool
  servedQ : Option AppType
  acQToRetry : List AppType
  acQ : AppType → AccessCategoryQ
  backoffTimer : Option SimTime

namespace WEQoSQueue

/-- The queue after its constructor and `setMaxQueueSize` -/
def initial (maxQueueSize : Int) : WEQoSQueue where
  maxQueueSize := maxQueueSize
  readyQSending := false
  contentionStart := false
  servedQ := none
  acQToRetry := []
  acQ := fun AC => ⟨[], none, 0, 0, AC.CWmin, 0, 0⟩
  backoffTimer := none

/-! ### Getters -/

def servedIndex (q : WEQoSQueue) : Int :=
  match q.servedQ with
  | some AC => AC.val
  | none => -1

/-- The category that the getters read. They reject category 0. -/
def served (q : WEQoSQueue) : Exec AccessCategoryQ := do
  Exec.assert (0 < q.servedIndex)
  let AC ← Exec.deref .outOfBounds q.servedQ
  return q.acQ AC

def getRetry (q : WEQoSQueue) : Exec Nat := (·.retry) <$> q.served

def getCW (q : WEQoSQueue) : Exec Nat := (·.CW) <$> q.served

def getBackoffSlots (q : WEQoSQueue) : Exec Nat := (·.backoffSlots) <$> q.served

def getTimeToSend (q : WEQoSQueue) : Exec SimTime := (·.timeToSend) <$> q.served

def getQueueType (q : WEQoSQueue) : Exec Int := do
  Exec.assert (0 ≤ q.servedIndex)
  return q.servedIndex

def getReadyFrame (q : WEQoSQueue) : Option WirelessEtherFrame :=
  q.servedQ.bind fun AC => (q.acQ AC).readyFrame

def sizeOfQ (q : WEQoSQueue) (AC : AppType) : Nat :=
  (q.acQ AC).queue.length + if (q.acQ AC).readyFrame.isSome then 1 else 0

def size (q : WEQoSQueue) : Nat := ([0, 1, 2, 3].map q.sizeOfQ).sum

/-! ### The choice of the category to be served -/

def soonestToSendQ (q : WEQoSQueue) : Exec (Option AppType) := do
  let (soonestTSQ, _) ← [0, 1, 2, 3].foldlM (fun (best : Option AppType × SimTime) (i : AppType) =>
    let a := q.acQ i
    if a.readyFrame.isSome then do
      Exec.assert (a.timeToSend ≠ 0)
      if q.contentionStart then
        if a.timeToSend + a.contentionStartTime < best.2 then return (some i, a.timeToSend + a.contentionStartTime)
        else return best
      else if a.timeToSend ≤ best.2 then return (some i, a.timeToSend)
      else return best
    else return best) (none, 99999)
  return soonestTSQ

/-- Whether category `i` is sent at the time of `AC`. It must not be earlier. -/
def collidesWith (q : WEQoSQueue) (AC i : AppType) : Exec Bool := do
  let diff :=
    if q.contentionStart then ((q.acQ i).timeToSend + (q.acQ i).contentionStartTime) -
      ((q.acQ AC).timeToSend + (q.acQ AC).contentionStartTime)
    else (q.acQ i).timeToSend - (q.acQ AC).timeToSend
  let diff := if |diff| < precError then 0 else diff
  Exec.assert (0 ≤ diff)
  return diff = 0

/-- The resolved category, and the others that are to be retried -/
def resolveCollisionsWithQ (q : WEQoSQueue) : Option AppType → Exec (Option AppType × List AppType)
  | none => .ok (none, q.acQToRetry)
  | some AC => do
      Exec.assert ((q.acQ AC).readyFrame.isSome = true)
      -- Resolve with higher priority queues
      let r ← ([3, 2, 1, 0].filter (AC < ·)).foldlM (fun (r : AppType × List AppType) (i : AppType) => do
        if (q.acQ i).readyFrame.isSome then
          if ← q.collidesWith AC i then
            if r.1 < i then return (i, r.2 ++ [r.1])
            else return (r.1, r.2 ++ [i])
          else return r
        else return r) (AC, [])
      -- Resolve with lower priority queues
      let acQToRetry ← ([0, 1, 2, 3].filter (· < AC)).foldlM (fun (toRetry : List AppType) (i : AppType) => do
        if (q.acQ i).readyFrame.isSome then
          if ← q.collidesWith AC i then return toRetry ++ [i]
          else return toRetry
        else return toRetry) r.2
      return (some r.1, acQToRetry)

/-- `servedQ = resolveCollisionsWithQ(soonestToSendQ())` -/
def serve (q : WEQoSQueue) : Exec WEQoSQueue := do
  let AC ← q.soonestToSendQ
  let (servedQ, acQToRetry) ← q.resolveCollisionsWithQ AC
  return { q with servedQ, acQToRetry }

/-- The back-off timer follows the category to be served. -/
def rescheduleBackoff (q : WEQoSQueue) : Exec WEQoSQueue :=
  match q.servedQ with
  | some AC =>
      if q.contentionStart then do
        Exec.assert (q.backoffTimer.isSome = true)
        return { q with backoffTimer := some ((q.acQ AC).contentionStartTime + (q.acQ AC).timeToSend) }
      else .ok q
  | none => .ok q

/-! ### The operations -/

def reset (q : WEQoSQueue) : WEQoSQueue :=
  { q with
    readyQSending := false
    contentionStart := false
    servedQ := none
    acQToRetry := []
    acQ := fun AC => { (q.acQ AC).resetParams AC with readyFrame := none, queue := [] } }

def prepareNextFrameForQ (q : WEQoSQueue) (time : SimTime) (rand : AppType → Nat) (AC : AppType) :
    Exec WEQoSQueue := do
  let a ← (q.acQ AC).prepareNextFrame AC time (rand AC)
  return { q with acQ := Function.update q.acQ AC a }

def initiateRetryForQ (q : WEQoSQueue) (time : SimTime) (rand : AppType → Nat) (AC : AppType) :
    Exec (Bool × WEQoSQueue) := do
  let (status, a) ← (q.acQ AC).initiateRetry AC time (rand AC)
  return (status, { q with acQ := Function.update q.acQ AC a })

def retryCollided (q : WEQoSQueue) (time : SimTime) (rand : AppType → Nat) : Exec WEQoSQueue :=
  q.acQToRetry.foldlM (fun q AC => (·.2) <$> q.initiateRetryForQ time rand AC) { q with acQToRetry := [] }

def prepareNextFrame (q : WEQoSQueue) (time : SimTime) (rand : AppType → Nat) : Exec WEQoSQueue := do
  let q ← if q.readyQSending then do
      let q ← q.retryCollided time rand
      pure { q with readyQSending := false }
    else .ok q
  let AC ← Exec.deref .outOfBounds q.servedQ
  let q ← q.prepareNextFrameForQ time rand AC
  let q ← q.serve
  q.rescheduleBackoff

/-- The front of an empty queue cannot be popped. -/
def insertFrame (q : WEQoSQueue) (frame : WirelessEtherFrame) (time : SimTime) (rand : AppType → Nat) :
    Exec WEQoSQueue := do
  let AC := frame.appType
  let a := q.acQ AC
  let queue ←
    if q.maxQueueSize < 0 ∨ a.queue.length < q.maxQueueSize then .ok (a.queue ++ [frame])
    else match a.queue with
      | [] => .error .fatalError
      | _ :: rest => .ok (rest ++ [frame])
  let q := { q with acQ := Function.update q.acQ AC { a with queue } }
  if a.readyFrame = none then
    let q ← q.prepareNextFrameForQ time rand AC
    if q.readyQSending then return q
    else
      let q ← q.serve
      q.rescheduleBackoff
  else return q

def initiateRetry (q : WEQoSQueue) (time : SimTime) (rand : AppType → Nat) : Exec (Bool × WEQoSQueue) := do
  let AC ← Exec.deref .outOfBounds q.servedQ
  Exec.assert ((q.acQ AC).readyFrame.isSome = true)
  Exec.assert (q.readyQSending = true)
  let (status, q) ← { q with readyQSending := false }.initiateRetryForQ time rand AC
  let q ← q.retryCollided time rand
  let q ← q.serve
  return (status, q)

/-- The categories with a ready frame that are not spared, one after the other -/
def deductElapsed (q : WEQoSQueue) (spared : AppType → Bool) (time : SimTime) : Exec (AppType → AccessCategoryQ) :=
  [0, 1, 2, 3].foldlM (fun (acQ : AppType → AccessCategoryQ) (i : AppType) => do
    let a ← if !spared i && (acQ i).readyFrame.isSome then (acQ i).deductElapsed i time else .ok (acQ i)
    return Function.update acQ i a) q.acQ

def contentionInterrupted (q : WEQoSQueue) (time : SimTime) : Exec WEQoSQueue := do
  let acQ ← q.deductElapsed (fun _ => false) time
  { q with contentionStart := false, acQ }.serve

def startingContention (q : WEQoSQueue) (time : SimTime) : WEQoSQueue :=
  { q with
    contentionStart := true
    acQ := fun AC =>
      if (q.acQ AC).readyFrame.isSome then { q.acQ AC with contentionStartTime := time } else q.acQ AC }

def sendingReadyFrame (q : WEQoSQueue) (time : SimTime) : Exec WEQoSQueue := do
  let acQ ← q.deductElapsed (fun i => q.servedQ = some i) time
  return { q with contentionStart := false, readyQSending := true, acQ }

end WEQoSQueue

end IPv6Suite
