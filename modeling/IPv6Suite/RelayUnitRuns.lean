import IPv6Suite.Lib.Lists
import IPv6Suite.MACRelayUnitBase
import Mathlib.Tactic.Linarith

namespace IPv6Suite

open Lib

structure ArrivedFrame where
  frame : EtherFrame
  inputport : Nat
deriving DecidableEq

def ArrivedFrame.bytes (a : ArrivedFrame) : Nat := a.frame.length / 8

namespace MACRelayUnitBase

def etherMacFrameBytes : Nat := 18

def etherPauseCommandBytes : Nat := 6

def pauseFrame (pauseUnits : Int) : EtherFrame :=
  ⟨.ethPause (BitVec.ofInt 32 pauseUnits), 0, 0,
    max (8 * (etherMacFrameBytes + etherPauseCommandBytes)) (8 * minEthernetFrame), false⟩

def sendPauseFrame (portno : Nat) (pauseUnits : Int) : Nat × EtherFrame := (portno, pauseFrame pauseUnits)

end MACRelayUnitBase

/-- The memory of a relay unit and its flow control, the same in both units -/
structure RelayBuffer where
  processingTime : SimTime
  bufferSize : Int
  highWatermark : Int
  pauseUnits : Int
  pauseInterval : SimTime
  bufferUsed : Int
  pauseLastSent : SimTime
deriving DecidableEq

namespace RelayBuffer

def start (processingTime : SimTime) (bufferSize highWatermark pauseUnits : Int) : RelayBuffer :=
  ⟨processingTime, bufferSize, highWatermark, pauseUnits, pauseUnits * 512 / 100000, 0, 0⟩

def Accepts (b : RelayBuffer) (a : ArrivedFrame) : Prop := a.bytes + b.bufferUsed < b.bufferSize
deriving Decidable

/-- Whether the frame just accepted brings out PAUSE frames -/
def PausesAt (b : RelayBuffer) (now : SimTime) : Prop :=
  b.pauseUnits > 0 ∧ b.highWatermark > 0 ∧ b.bufferUsed ≥ b.highWatermark ∧ b.pauseLastSent - now > b.pauseInterval
deriving Decidable

def accept (b : RelayBuffer) (now : SimTime) (numPorts : Nat) (a : ArrivedFrame) :
    RelayBuffer × List (Nat × EtherFrame) :=
  let b := { b with bufferUsed := b.bufferUsed + a.bytes }
  if b.PausesAt now then
    ({ b with pauseLastSent := now }, (List.range numPorts).map fun i => MACRelayUnitBase.sendPauseFrame i b.pauseUnits)
  else (b, [])

def release (b : RelayBuffer) (a : ArrivedFrame) : RelayBuffer := { b with bufferUsed := b.bufferUsed - a.bytes }

/-- When the processing of a frame ends that is started now. The kernel schedules nothing in the past. -/
def endOfProcessing (b : RelayBuffer) (now : SimTime) : Exec SimTime :=
  if b.processingTime < 0 then .error .fatalError else .ok (now + b.processingTime)

end RelayBuffer

/-- Each processor has the frame that it processes and the time at which it is done. -/
structure MACRelayUnitNP where
  base : MACRelayUnitBase
  memory : RelayBuffer
  cpus : List (Option (ArrivedFrame × SimTime))
  queue : List ArrivedFrame

namespace MACRelayUnitNP

def start (base : MACRelayUnitBase) (memory : RelayBuffer) (numCPUs : Nat) : MACRelayUnitNP :=
  ⟨base, memory, List.replicate numCPUs none, []⟩

def handleIncomingFrame (u : MACRelayUnitNP) (now : SimTime) (a : ArrivedFrame) :
    Exec (MACRelayUnitNP × List (Nat × EtherFrame)) :=
  if u.memory.Accepts a then
    let (memory, pauses) := u.memory.accept now u.base.numPorts a
    let i := u.cpus.findIdx Option.isNone
    if i = u.cpus.length then .ok ({ u with memory := memory, queue := u.queue ++ [a] }, pauses)
    else do
      let time ← memory.endOfProcessing now
      return ({ u with memory := memory, cpus := u.cpus.set i (some (a, time)) }, pauses)
  else .ok (u, [])

def processFrame (u : MACRelayUnitNP) (now : SimTime) (cpu : Nat) :
    Exec (MACRelayUnitNP × ArrivedFrame × List (Nat × EtherFrame)) := do
  let processed ← Exec.deref .nullDeref (u.cpus[cpu]?.getD none)
  let a := processed.1
  let (base, sent) ← u.base.handleAndDispatchFrame now a.frame a.inputport
  let memory := u.memory.release a
  match u.queue with
  | newframe :: rest => do
      let time ← memory.endOfProcessing now
      return ({ base, memory, cpus := u.cpus.set cpu (some (newframe, time)), queue := rest }, a, sent)
  | [] => return ({ base, memory, cpus := u.cpus.set cpu none, queue := [] }, a, sent)

end MACRelayUnitNP

/-- The first frame of the queue is the one that is processed, if the processor is busy. -/
structure PortBuffer where
  port : Nat
  cpuBusy : Bool
  queue : List EtherFrame
deriving DecidableEq

/-- `endProcessing` has the messages that are scheduled, each with the index of its buffer and its time. -/
structure MACRelayUnitPP where
  base : MACRelayUnitBase
  memory : RelayBuffer
  buffer : List PortBuffer
  endProcessing : List (Nat × SimTime)

namespace MACRelayUnitPP

def start (base : MACRelayUnitBase) (memory : RelayBuffer) : MACRelayUnitPP :=
  ⟨base, memory, (List.range base.numPorts).map fun i => ⟨i, false, []⟩, []⟩

def handleIncomingFrame (u : MACRelayUnitPP) (now : SimTime) (a : ArrivedFrame) :
    Exec (MACRelayUnitPP × List (Nat × EtherFrame)) :=
  if u.memory.Accepts a then do
    let pBuff ← Exec.deref .outOfBounds u.buffer[a.inputport]?
    let pBuff := { pBuff with queue := pBuff.queue ++ [a.frame], port := a.inputport }
    let (memory, pauses) := u.memory.accept now u.base.numPorts a
    if pBuff.cpuBusy then
      return ({ u with memory := memory, buffer := u.buffer.set a.inputport pBuff }, pauses)
    else do
      let time ← memory.endOfProcessing now
      return ({ u with
        memory := memory
        buffer := u.buffer.set a.inputport { pBuff with cpuBusy := true }
        endProcessing := u.endProcessing ++ [(a.inputport, time)] }, pauses)
  else .ok (u, [])

/-- The message of the buffer `index` arrives. The frame that is dispatched is returned first. -/
def processFrame (u : MACRelayUnitPP) (now : SimTime) (index : Nat) :
    Exec (MACRelayUnitPP × ArrivedFrame × List (Nat × EtherFrame)) := do
  let endProcessing := u.endProcessing.erase (index, now)
  let pBuff ← Exec.deref .nullDeref u.buffer[index]?
  let frame ← Exec.deref .fatalError pBuff.queue.head?
  let a := ⟨frame, pBuff.port⟩
  let (base, sent) ← u.base.handleAndDispatchFrame now frame pBuff.port
  let memory := u.memory.release a
  if pBuff.queue.tail ≠ [] then do
    let time ← memory.endOfProcessing now
    return ({ base, memory, buffer := u.buffer.set index { pBuff with queue := pBuff.queue.tail },
              endProcessing := endProcessing ++ [(index, time)] }, a, sent)
  else
    return ({ base, memory, buffer := u.buffer.set index { pBuff with queue := pBuff.queue.tail, cpuBusy := false },
              endProcessing }, a, sent)

end MACRelayUnitPP

namespace RelayBuffer

variable {b : RelayBuffer} {clock now : SimTime}

/-- The last PAUSE is not from the future, and if PAUSE frames have a duration, the interval between them does. -/
structure Flow (b : RelayBuffer) (clock : SimTime) : Prop where
  past : b.pauseLastSent ≤ clock
  interval : b.pauseUnits > 0 → 0 < b.pauseInterval

theorem flow_start (processingTime : SimTime) (bufferSize highWatermark pauseUnits : Int) :
    (start processingTime bufferSize highWatermark pauseUnits).Flow 0 where
  past := le_refl _
  interval positive := by
    have units : (0 : ℚ) < pauseUnits := Int.cast_pos.mpr positive
    change (0 : ℚ) < pauseUnits * 512 / 100000
    linarith

/-- The time since the last PAUSE is taken with the wrong sign, so no PAUSE is ever sent. -/
theorem accept_eq (flow : b.Flow clock) (later : clock ≤ now) (numPorts : Nat) (a : ArrivedFrame) :
    b.accept now numPorts a = ({ b with bufferUsed := b.bufferUsed + a.bytes }, []) := by
  refine if_neg fun pauses => ?_
  have interval := flow.interval pauses.1
  have since := pauses.2.2.2
  have past := flow.past
  dsimp only at since
  linarith

end RelayBuffer

/-- What a run of a relay unit needs of it -/
structure RelayScheme (U : Type) where
  memory : U → RelayBuffer
  numPorts : U → Nat
  /-- The frames that are queued or processed -/
  held : U → List ArrivedFrame
  /-- The processors with the times at which they are done -/
  scheduled : U → List (Nat × SimTime)
  Staffed : U → Prop
  /-- Where a frame is queued, there are processors, and all of them are busy. -/
  Works : U → Prop
  handleIncomingFrame : U → SimTime → ArrivedFrame → Exec (U × List (Nat × EtherFrame))
  processFrame : U → SimTime → Nat → Exec (U × ArrivedFrame × List (Nat × EtherFrame))

def MACRelayUnitNP.inService : Option (ArrivedFrame × SimTime) → List ArrivedFrame
  | none => []
  | some processed => [processed.1]

def MACRelayUnitNP.scheme : RelayScheme MACRelayUnitNP where
  memory := memory
  numPorts u := u.base.numPorts
  held u := u.cpus.flatMap inService ++ u.queue
  scheduled u := u.cpus.zipIdx.flatMap fun cpu => (cpu.1.map fun processed => (cpu.2, processed.2)).toList
  Staffed u := u.cpus ≠ []
  Works u := u.queue ≠ [] → u.cpus ≠ [] ∧ ∀ cpu ∈ u.cpus, cpu.isSome
  handleIncomingFrame := handleIncomingFrame
  processFrame := processFrame

def PortBuffer.frames (pBuff : PortBuffer) : List ArrivedFrame := pBuff.queue.map (⟨·, pBuff.port⟩)

def MACRelayUnitPP.scheme : RelayScheme MACRelayUnitPP where
  memory := memory
  numPorts u := u.base.numPorts
  held u := u.buffer.flatMap PortBuffer.frames
  scheduled := endProcessing
  Staffed _ := True
  Works u := ∀ (i : Nat) (pBuff : PortBuffer), u.buffer[i]? = some pBuff → pBuff.queue ≠ [] →
    ∃ time, (i, time) ∈ u.endProcessing
  handleIncomingFrame := handleIncomingFrame
  processFrame := processFrame

structure RelayRun (U : Type) where
  unit : U
  clock : SimTime
  accepted : List ArrivedFrame
  dispatched : List ArrivedFrame

namespace RelayRun

def start {U : Type} (unit : U) : RelayRun U := ⟨unit, 0, [], []⟩

inductive Event where
  | frameIn (now : SimTime) (a : ArrivedFrame)
  | endProcessing (now : SimTime) (cpu : Nat)

def Event.now : Event → SimTime
  | frameIn now _ | endProcessing now _ => now

end RelayRun

namespace RelayScheme

open RelayRun

variable {U : Type} {s : RelayScheme U} {h h' : RelayRun U} {e : Event} {sent : List (Nat × EtherFrame)}

/-- `handleMessage`, with the frames that are sent -/
def outcome (s : RelayScheme U) (h : RelayRun U) : Event → Exec (RelayRun U × List (Nat × EtherFrame))
  | .frameIn now a =>
      if a.frame.kind ≠ .ethFrame then .error .fatalError
      else (s.handleIncomingFrame h.unit now a).map fun after =>
        (⟨after.1, now, if (s.memory h.unit).Accepts a then h.accepted ++ [a] else h.accepted, h.dispatched⟩, after.2)
  | .endProcessing now cpu => (s.processFrame h.unit now cpu).map fun after =>
      (⟨after.1, now, h.accepted, h.dispatched ++ [after.2.1]⟩, after.2.2)

def step (s : RelayScheme U) (h : RelayRun U) (e : Event) : Exec (RelayRun U) := (s.outcome h e).map Prod.fst

/-- Nothing that is scheduled is passed over, a frame comes from a port, and a message when it is due. -/
def Admits (s : RelayScheme U) (h : RelayRun U) (e : Event) : Prop :=
  h.clock ≤ e.now ∧ (∀ message ∈ s.scheduled h.unit, e.now ≤ message.2) ∧
    match e with
    | .frameIn _ a => a.inputport < s.numPorts h.unit
    | .endProcessing now cpu => (cpu, now) ∈ s.scheduled h.unit

instance (s : RelayScheme U) (h : RelayRun U) : (e : Event) → Decidable (s.Admits h e)
  | .frameIn .. | .endProcessing .. => inferInstanceAs (Decidable (_ ∧ _ ∧ _))

/-- The memory used is that of the frames held, and is below its size unless there is none; every accepted frame is
dispatched or still held; processors work; and all frames are dispatched once nothing is scheduled any more. -/
structure Orderly (s : RelayScheme U) (h : RelayRun U) : Prop where
  used : (s.memory h.unit).bufferUsed = ((s.held h.unit).map ArrivedFrame.bytes).sum
  below : (s.memory h.unit).bufferUsed < (s.memory h.unit).bufferSize ↔ 0 < (s.memory h.unit).bufferSize
  once : h.accepted.Perm (h.dispatched ++ s.held h.unit)
  works : s.Works h.unit ↔ s.Staffed h.unit ∨ s.held h.unit = []
  ends : s.Staffed h.unit → s.scheduled h.unit = [] → h.accepted.Perm h.dispatched

/-- A PAUSE frame is due, with `used` bytes in the buffer. The last PAUSE counts as sent at time 0 at first. -/
def PauseDue (b : RelayBuffer) (used : Int) (now : SimTime) : Prop :=
  0 < b.pauseUnits ∧ 0 < b.highWatermark ∧ b.highWatermark ≤ used ∧ b.pauseInterval < now - b.pauseLastSent
deriving Decidable

/-- If a PAUSE frame is due after a frame is accepted, one is sent on every port. -/
def Paused (s : RelayScheme U) (h : RelayRun U) (e : Event) (after : RelayRun U × List (Nat × EtherFrame)) : Prop :=
  match e with
  | .frameIn now a => (s.memory h.unit).Accepts a →
      PauseDue (s.memory h.unit) (s.memory after.1.unit).bufferUsed now → ∀ port < s.numPorts h.unit,
        (port, MACRelayUnitBase.pauseFrame (s.memory h.unit).pauseUnits) ∈ after.2
  | .endProcessing .. => True

/-- No accepted frame makes a PAUSE frame due. -/
def Sound (s : RelayScheme U) (h : RelayRun U) (e : Event) : Prop :=
  match e with
  | .frameIn now a => (s.memory h.unit).Accepts a →
      ¬ PauseDue (s.memory h.unit) ((s.memory h.unit).bufferUsed + a.bytes) now
  | .endProcessing .. => True

instance (s : RelayScheme U) (h : RelayRun U) : (e : Event) → Decidable (s.Sound h e)
  | .frameIn .. => inferInstanceAs (Decidable (_ → _))
  | .endProcessing .. => isTrue trivial

/-- What the handlers of a unit do, on an invariant of the unit -/
structure Lawful (s : RelayScheme U) (Inv : U → Prop) : Prop where
  incoming : ∀ {u u' : U} {now : SimTime} {a : ArrivedFrame} {sent : List (Nat × EtherFrame)}, Inv u →
    a.inputport < s.numPorts u → s.handleIncomingFrame u now a = .ok (u', sent) → Inv u' ∧
      (¬ (s.memory u).Accepts a ∧ u' = u ∧ sent = [] ∨ (s.memory u).Accepts a ∧
        (s.memory u', sent) = (s.memory u).accept now (s.numPorts u) a ∧ (s.held u').Perm (s.held u ++ [a]))
  process : ∀ {u u' : U} {now : SimTime} {cpu : Nat} {a : ArrivedFrame} {sent : List (Nat × EtherFrame)}, Inv u →
    (cpu, now) ∈ s.scheduled u → s.processFrame u now cpu = .ok (u', a, sent) → Inv u' ∧
      s.memory u' = (s.memory u).release a ∧ (s.held u).Perm (a :: s.held u')
  works : ∀ {u : U}, Inv u → (s.Works u ↔ s.Staffed u ∨ s.held u = [])
  ends : ∀ {u : U}, Inv u → s.Staffed u → s.scheduled u = [] → s.held u = []

/-- What holds in every run -/
structure Following (s : RelayScheme U) (Inv : U → Prop) (h : RelayRun U) : Prop where
  inv : Inv h.unit
  flow : (s.memory h.unit).Flow h.clock
  used : (s.memory h.unit).bufferUsed = ((s.held h.unit).map ArrivedFrame.bytes).sum
  room : s.held h.unit = [] ∨ (s.memory h.unit).bufferUsed < (s.memory h.unit).bufferSize
  once : h.accepted.Perm (h.dispatched ++ s.held h.unit)

variable {Inv : U → Prop}

theorem Following.orderly (lawful : s.Lawful Inv) (following : s.Following Inv h) : s.Orderly h where
  used := following.used
  below := by
    have used := following.used
    rcases following.room with empty | below
    · rw [empty] at used
      rw [used]
      exact Iff.rfl
    · have := Int.natCast_nonneg ((s.held h.unit).map ArrivedFrame.bytes).sum
      exact iff_of_true below (by omega)
  once := following.once
  works := lawful.works following.inv
  ends staffed idle := by
    have once := following.once
    rw [lawful.ends following.inv staffed idle, List.append_nil] at once
    exact once

theorem bytes_of_perm {held held' : List ArrivedFrame} (perm : held.Perm held') :
    ((held.map ArrivedFrame.bytes).sum : Int) = (held'.map ArrivedFrame.bytes).sum :=
  congrArg Nat.cast (perm.map _).sum_eq

theorem Following.frameIn {now : SimTime} {a : ArrivedFrame} (lawful : s.Lawful Inv)
    (following : s.Following Inv h) (admits : s.Admits h (.frameIn now a))
    (outcomes : s.outcome h (.frameIn now a) = .ok (h', sent)) : s.Following Inv h' ∧
      ((s.memory h.unit).Accepts a → sent = [] ∧
        (s.memory h'.unit).bufferUsed = (s.memory h.unit).bufferUsed + a.bytes) := by
  unfold outcome at outcomes
  dsimp only at outcomes
  split at outcomes
  · cases outcomes
  · obtain ⟨⟨u', sent'⟩, handles, same⟩ := map_eq_ok outcomes
    cases same
    have later : h.clock ≤ now := admits.1
    have past := following.flow.past.trans later
    obtain ⟨inv, ⟨rejects, rfl, -⟩ | ⟨accepts, taken, perm⟩⟩ := lawful.incoming following.inv admits.2.2 handles
    · rw [if_neg rejects]
      exact ⟨⟨inv, ⟨past, following.flow.interval⟩, following.used, following.room, following.once⟩,
        fun accepts => (rejects accepts).elim⟩
    · rw [RelayBuffer.accept_eq following.flow later, Prod.mk.injEq] at taken
      obtain ⟨memory, rfl⟩ := taken
      rw [if_pos accepts]
      refine ⟨⟨inv, ?_, ?_, ?_, ?_⟩, fun _ => ⟨rfl, ?_⟩⟩
      · rw [memory]
        exact ⟨past, following.flow.interval⟩
      · rw [memory, bytes_of_perm perm, List.map_append, List.sum_append, List.map_singleton, List.sum_singleton,
          Nat.cast_add]
        exact congrArg (· + (a.bytes : Int)) following.used
      · rw [memory]
        refine .inr ?_
        unfold RelayBuffer.Accepts at accepts
        dsimp only
        omega
      · have more := following.once.append_right [a]
        rw [List.append_assoc] at more
        exact more.trans (perm.symm.append_left _)
      · rw [memory]

theorem Following.endProcessing {now : SimTime} {cpu : Nat} (lawful : s.Lawful Inv)
    (following : s.Following Inv h) (admits : s.Admits h (.endProcessing now cpu))
    (outcomes : s.outcome h (.endProcessing now cpu) = .ok (h', sent)) : s.Following Inv h' := by
  obtain ⟨⟨u', a, sent'⟩, handles, same⟩ := map_eq_ok outcomes
  cases same
  obtain ⟨inv, memory, perm⟩ := lawful.process following.inv admits.2.2 handles
  have bytes := bytes_of_perm perm
  rw [List.map_cons, List.sum_cons, Nat.cast_add, ← following.used] at bytes
  refine ⟨inv, ?_, ?_, ?_, ?_⟩
  · rw [memory]
    exact ⟨following.flow.past.trans admits.1, following.flow.interval⟩
  · rw [memory]
    dsimp only [RelayBuffer.release]
    omega
  · rw [memory]
    refine .inr ?_
    rcases following.room with empty | below
    · rw [empty] at perm
      exact (List.cons_ne_nil _ _ perm.nil_eq.symm).elim
    · dsimp only [RelayBuffer.release]
      omega
  · rw [List.append_assoc]
    exact following.once.trans (perm.append_left _)

theorem following_step (lawful : s.Lawful Inv) (following : s.Following Inv h) (admits : s.Admits h e)
    (steps : s.step h e = .ok h') : s.Following Inv h' := by
  obtain ⟨⟨after, sent⟩, outcomes, rfl⟩ := map_eq_ok steps
  cases e with
  | frameIn now a => exact (following.frameIn lawful admits outcomes).1
  | endProcessing now cpu => exact following.endProcessing lawful admits outcomes

/-- No PAUSE is sent, so the rule holds exactly where none is due. -/
theorem paused_iff (lawful : s.Lawful Inv) (following : s.Following Inv h) (admits : s.Admits h e)
    (outcomes : s.outcome h e = .ok (h', sent)) : s.Paused h e (h', sent) ↔ s.Sound h e := by
  cases e with
  | endProcessing now cpu => exact Iff.rfl
  | frameIn now a =>
      have goes := (following.frameIn lawful admits outcomes).2
      refine forall_congr' fun accepts => ?_
      obtain ⟨rfl, used⟩ := goes accepts
      dsimp only
      rw [used]
      refine forall_congr' fun due => ⟨fun all => ?_, False.elim⟩
      cases all a.inputport admits.2.2

/-- In every run from the start the unit is orderly, and the rule for PAUSE frames holds exactly where none is due. -/
def Behaves (s : RelayScheme U) (u : U) : Prop :=
  ∀ (es : List Event) (h : RelayRun U), Runs s.step s.Admits (.start u) es h → s.Orderly h ∧
    ∀ e, s.Admits h e → ∀ after, s.outcome h e = .ok after → (s.Paused h e after ↔ s.Sound h e)

theorem behaves_of_lawful {u : U} (lawful : s.Lawful Inv) (inv : Inv u)
    (flow : (s.memory u).Flow 0) (used : (s.memory u).bufferUsed = 0) (none : s.held u = []) : s.Behaves u := by
  intro es h runs
  have following : s.Following Inv h := runs.invariant _
    (fun h e h' following admits steps => following_step lawful following admits steps)
    ⟨inv, flow, by rw [show s.held (RelayRun.start u).unit = [] from none]; exact used, .inl none,
      by rw [show s.held (RelayRun.start u).unit = [] from none]; exact .nil⟩
  exact ⟨following.orderly lawful, fun e admits after outcomes => paused_iff lawful following admits outcomes⟩

end RelayScheme

namespace MACRelayUnitNP

variable {u u' : MACRelayUnitNP} {now : SimTime} {a : ArrivedFrame} {cpu : Nat} {sent : List (Nat × EtherFrame)}

/-- No processor is idle while a frame is queued. -/
def Busy (u : MACRelayUnitNP) : Prop := u.queue ≠ [] → ∀ cpu ∈ u.cpus, cpu.isSome

theorem busy_incoming (busy : u.Busy) (handles : u.handleIncomingFrame now a = .ok (u', sent)) : u'.Busy ∧
    (¬ u.memory.Accepts a ∧ u' = u ∧ sent = [] ∨ u.memory.Accepts a ∧
      (u'.memory, sent) = u.memory.accept now u.base.numPorts a ∧ (scheme.held u').Perm (scheme.held u ++ [a])) := by
  unfold handleIncomingFrame at handles
  split at handles
  · rename_i accepts
    dsimp only at handles
    split at handles
    · rename_i none
      cases handles
      refine ⟨fun _ cpu mem => ?_, .inr ⟨accepts, rfl, .of_eq (List.append_assoc ..).symm⟩⟩
      have full := List.findIdx_eq_length.mp none cpu mem
      rw [Option.isNone_eq_false_iff] at full
      exact full
    · rename_i free
      obtain ⟨time, _, ends⟩ := bind_eq_ok.mp handles
      cases ends
      have within : u.cpus.findIdx Option.isNone < u.cpus.length := Nat.lt_of_le_of_ne List.findIdx_le_length free
      have idle : u.cpus[u.cpus.findIdx Option.isNone]? = some none := by
        rw [List.getElem?_eq_getElem within]
        exact congrArg some (Option.isNone_iff_eq_none.mp (List.findIdx_getElem (w := within)))
      have empty : u.queue = [] := by
        by_contra queued
        cases busy queued none (List.mem_of_getElem? idle)
      refine ⟨fun queued => (queued empty).elim, .inr ⟨accepts, rfl, ?_⟩⟩
      change ((u.cpus.set _ (some (a, time))).flatMap inService ++ u.queue).Perm
        (u.cpus.flatMap inService ++ u.queue ++ [a])
      rw [empty, List.append_nil, List.append_nil]
      exact Lists.perm_flatMap_set_of_more idle (.refl [a])
  · rename_i rejects
    cases handles
    exact ⟨busy, .inl ⟨rejects, rfl, rfl⟩⟩

theorem busy_process (busy : u.Busy) (handles : u.processFrame now cpu = .ok (u', a, sent)) : u'.Busy ∧
    u'.memory = u.memory.release a ∧ (scheme.held u).Perm (a :: scheme.held u') := by
  obtain ⟨processed, found, ends⟩ := bind_eq_ok.mp handles
  rw [deref_eq_ok] at found
  have located : u.cpus[cpu]? = some (some processed) := by
    cases at_ : u.cpus[cpu]? with
    | none => rw [at_] at found; cases found
    | some processor => rw [at_] at found; exact congrArg some found
  obtain ⟨⟨base, sent'⟩, _, ends⟩ := bind_eq_ok.mp ends
  dsimp only at ends
  cases queue : u.queue with
  | nil =>
      rw [queue] at ends
      cases ends
      refine ⟨fun queued => (queued rfl).elim, rfl, ?_⟩
      change (u.cpus.flatMap inService ++ u.queue).Perm (processed.1 :: ((u.cpus.set cpu none).flatMap inService ++ []))
      rw [queue, List.append_nil, List.append_nil]
      exact Lists.perm_flatMap_set_of_less [processed.1] located (.refl _)
  | cons newframe rest =>
      rw [queue] at ends
      obtain ⟨time, _, ends⟩ := bind_eq_ok.mp ends
      cases ends
      refine ⟨fun _ processor mem => ?_, rfl, ?_⟩
      · rcases List.mem_or_eq_of_mem_set mem with old | rfl
        · exact busy (queue ▸ List.cons_ne_nil _ _) processor old
        · rfl
      · change (u.cpus.flatMap inService ++ u.queue).Perm
          (processed.1 :: ((u.cpus.set cpu (some (newframe, time))).flatMap inService ++ rest))
        rw [queue]
        have next : (u.cpus.flatMap inService ++ [newframe]).Perm
            (processed.1 :: (u.cpus.set cpu (some (newframe, time))).flatMap inService) :=
          (Lists.perm_flatMap_set located (some (newframe, time))).symm.trans (List.perm_append_singleton ..)
        have both := next.append_right rest
        rw [List.append_assoc] at both
        exact both

theorem lawful : scheme.Lawful Busy where
  incoming busy _ handles := busy_incoming busy handles
  process busy _ handles := busy_process busy handles
  works {u} busy := by
    constructor
    · intro works
      by_cases staffed : u.cpus = []
      · refine .inr ?_
        have empty : u.queue = [] := by
          by_contra queued
          exact (works queued).1 staffed
        change u.cpus.flatMap inService ++ u.queue = []
        rw [staffed, empty]
        rfl
      · exact .inl staffed
    · rintro (staffed | empty) queued
      · exact ⟨staffed, busy queued⟩
      · exact (queued (List.append_eq_nil_iff.mp empty).2).elim
  ends {u} busy staffed idle := by
    have free : ∀ cpu ∈ u.cpus, cpu = none := fun cpu mem => by
      obtain ⟨i, located⟩ := List.mem_iff_getElem?.mp mem
      cases cpu with
      | none => rfl
      | some processed =>
          have out := List.flatMap_eq_nil_iff.mp idle (some processed, i) (List.mem_zipIdx_iff_getElem?.mpr located)
          cases out
    obtain ⟨cpu, mem⟩ := List.exists_mem_of_ne_nil _ staffed
    have empty : u.queue = [] := by
      by_contra queued
      have taken := busy queued cpu mem
      rw [free cpu mem] at taken
      cases taken
    change u.cpus.flatMap inService ++ u.queue = []
    rw [empty, List.append_nil, List.flatMap_eq_nil_iff]
    intro cpu mem
    rw [free cpu mem]
    rfl

end MACRelayUnitNP

namespace MACRelayUnitPP

variable {u u' : MACRelayUnitPP} {now : SimTime} {a : ArrivedFrame} {index : Nat} {sent : List (Nat × EtherFrame)}

/-- The processor of a port is busy while it has frames, and then one message of it is scheduled. -/
structure Paired (u : MACRelayUnitPP) : Prop where
  own : ∀ (i : Nat) (pBuff : PortBuffer), u.buffer[i]? = some pBuff → pBuff.port = i
  busy : ∀ (i : Nat) (pBuff : PortBuffer), u.buffer[i]? = some pBuff → (pBuff.cpuBusy = true ↔ pBuff.queue ≠ [])
  messages : ∀ (i : Nat) (pBuff : PortBuffer), u.buffer[i]? = some pBuff →
    (pBuff.cpuBusy = true ↔ i ∈ u.endProcessing.map Prod.fst)
  one : (u.endProcessing.map Prod.fst).Nodup

theorem Paired.set {messages : List (Nat × SimTime)} (paired : u.Paired) (pBuff : PortBuffer)
    (own : pBuff.port = index) (busy : pBuff.cpuBusy = true ↔ pBuff.queue ≠ [])
    (message : pBuff.cpuBusy = true ↔ index ∈ messages.map Prod.fst)
    (others : ∀ i, i ≠ index → (i ∈ messages.map Prod.fst ↔ i ∈ u.endProcessing.map Prod.fst))
    (one : (messages.map Prod.fst).Nodup) {base : MACRelayUnitBase} {memory : RelayBuffer} :
    Paired ⟨base, memory, u.buffer.set index pBuff, messages⟩ := by
  have beside : ∀ {i : Nat} {p : PortBuffer}, (u.buffer.set index pBuff)[i]? = some p →
      i = index ∧ p = pBuff ∨ i ≠ index ∧ u.buffer[i]? = some p := fun {i p} located => by
    rw [List.getElem?_set] at located
    split at located
    · rename_i same
      subst same
      split at located
      · cases located
        exact .inl ⟨rfl, rfl⟩
      · cases located
    · rename_i other
      exact .inr ⟨fun same => other same.symm, located⟩
  refine ⟨fun i p located => ?_, fun i p located => ?_, fun i p located => ?_, one⟩
  · rcases beside located with ⟨rfl, rfl⟩ | ⟨-, located⟩
    · exact own
    · exact paired.own i p located
  · rcases beside located with ⟨rfl, rfl⟩ | ⟨-, located⟩
    · exact busy
    · exact paired.busy i p located
  · rcases beside located with ⟨rfl, rfl⟩ | ⟨other, located⟩
    · exact message
    · exact (paired.messages i p located).trans (others i other).symm

theorem paired_incoming (paired : u.Paired) (handles : u.handleIncomingFrame now a = .ok (u', sent)) : u'.Paired ∧
    (¬ u.memory.Accepts a ∧ u' = u ∧ sent = [] ∨ u.memory.Accepts a ∧
      (u'.memory, sent) = u.memory.accept now u.base.numPorts a ∧ (scheme.held u').Perm (scheme.held u ++ [a])) := by
  unfold handleIncomingFrame at handles
  split at handles
  · rename_i accepts
    obtain ⟨pBuff, found, ends⟩ := bind_eq_ok.mp handles
    rw [deref_eq_ok] at found
    have port := paired.own _ pBuff found
    have brings : ∀ busy : Bool, (PortBuffer.frames ⟨a.inputport, busy, pBuff.queue ++ [a.frame]⟩).Perm
        (pBuff.frames ++ [a]) := fun busy => by
      unfold PortBuffer.frames
      rw [port, List.map_append]
      exact .refl _
    have queued : pBuff.queue ++ [a.frame] ≠ [] := List.append_ne_nil_of_right_ne_nil _ (List.cons_ne_nil _ _)
    dsimp only at ends
    split at ends
    · rename_i busy
      cases ends
      refine ⟨paired.set ⟨a.inputport, pBuff.cpuBusy, pBuff.queue ++ [a.frame]⟩ rfl (iff_of_true busy queued)
          (paired.messages _ pBuff found) (fun _ _ => Iff.rfl) paired.one,
        .inr ⟨accepts, rfl, Lists.perm_flatMap_set_of_more found (brings _)⟩⟩
    · rename_i free
      obtain ⟨time, _, ends⟩ := bind_eq_ok.mp ends
      cases ends
      have fresh : a.inputport ∉ u.endProcessing.map Prod.fst := mt (paired.messages _ pBuff found).mpr free
      refine ⟨paired.set ⟨a.inputport, true, pBuff.queue ++ [a.frame]⟩ rfl (iff_of_true rfl queued) (iff_of_true rfl ?_) (fun i other => ?_) ?_,
        .inr ⟨accepts, rfl, Lists.perm_flatMap_set_of_more found (brings true)⟩⟩
      · rw [List.map_append, List.mem_append]
        exact .inr (List.mem_singleton_self _)
      · rw [List.map_append, List.mem_append, List.map_singleton, List.mem_singleton]
        exact or_iff_left other
      · rw [List.map_append, List.map_singleton]
        exact (List.perm_append_singleton ..).nodup_iff.mpr (List.nodup_cons.mpr ⟨fresh, paired.one⟩)
  · rename_i rejects
    cases handles
    exact ⟨paired, .inl ⟨rejects, rfl, rfl⟩⟩

theorem paired_process (paired : u.Paired) (scheduled : (index, now) ∈ u.endProcessing)
    (handles : u.processFrame now index = .ok (u', a, sent)) : u'.Paired ∧
      u'.memory = u.memory.release a ∧ (scheme.held u).Perm (a :: scheme.held u') := by
  obtain ⟨pBuff, found, ends⟩ := bind_eq_ok.mp handles
  rw [deref_eq_ok] at found
  obtain ⟨frame, first, ends⟩ := bind_eq_ok.mp ends
  rw [deref_eq_ok] at first
  obtain ⟨⟨base, sent'⟩, _, ends⟩ := bind_eq_ok.mp ends
  dsimp only at ends
  have port := paired.own _ pBuff found
  have keys : (u.endProcessing.map Prod.fst).Perm (index :: (u.endProcessing.erase (index, now)).map Prod.fst) :=
    (List.perm_cons_erase scheduled).map Prod.fst
  have apart := keys.nodup_iff.mp paired.one
  rw [List.nodup_cons] at apart
  have others : ∀ i, i ≠ index →
      (i ∈ (u.endProcessing.erase (index, now)).map Prod.fst ↔ i ∈ u.endProcessing.map Prod.fst) := fun i other => by
    rw [keys.mem_iff, List.mem_cons]
    exact (or_iff_right other).symm
  have takes : ∀ busy : Bool, pBuff.frames.Perm
      ([⟨frame, pBuff.port⟩] ++ PortBuffer.frames ⟨pBuff.port, busy, pBuff.queue.tail⟩) := fun busy => by
    unfold PortBuffer.frames
    rw [show pBuff.queue = frame :: pBuff.queue.tail from (List.cons_head?_tail first).symm]
    exact .refl _
  split at ends
  · rename_i more
    obtain ⟨time, _, ends⟩ := bind_eq_ok.mp ends
    cases ends
    have busy : pBuff.cpuBusy = true := (paired.messages _ pBuff found).mpr (List.mem_map_of_mem scheduled)
    refine ⟨paired.set { pBuff with queue := pBuff.queue.tail } port (iff_of_true busy more) (iff_of_true busy ?_) (fun i other => ?_) ?_, rfl,
      Lists.perm_flatMap_set_of_less _ found (takes _)⟩
    · rw [List.map_append, List.mem_append]
      exact .inr (List.mem_singleton_self _)
    · rw [List.map_append, List.mem_append, List.map_singleton, List.mem_singleton]
      exact (or_iff_left other).trans (others i other)
    · rw [List.map_append, List.map_singleton]
      exact (List.perm_append_singleton ..).nodup_iff.mpr (List.nodup_cons.mpr apart)
  · rename_i last
    cases ends
    exact ⟨paired.set ⟨pBuff.port, false, pBuff.queue.tail⟩ port (iff_of_false Bool.false_ne_true last) (iff_of_false Bool.false_ne_true apart.1) others
      apart.2, rfl, Lists.perm_flatMap_set_of_less _ found (takes false)⟩

theorem lawful : scheme.Lawful Paired where
  incoming paired _ handles := paired_incoming paired handles
  process paired scheduled handles := paired_process paired scheduled handles
  works {u} paired := by
    refine iff_of_true (fun i pBuff located queued => ?_) (.inl trivial)
    have busy := (paired.busy i pBuff located).mpr queued
    obtain ⟨message, mem, rfl⟩ := List.mem_map.mp ((paired.messages i pBuff located).mp busy)
    exact ⟨message.2, mem⟩
  ends {u} paired _ idle := by
    refine List.flatMap_eq_nil_iff.mpr fun pBuff mem => ?_
    obtain ⟨i, located⟩ := List.mem_iff_getElem?.mp mem
    have free : ¬ pBuff.cpuBusy = true := fun busy => by
      have message := (paired.messages i pBuff located).mp busy
      rw [show u.endProcessing = [] from idle] at message
      cases message
    have empty : pBuff.queue = [] := not_not.mp (mt (paired.busy i pBuff located).mpr free)
    unfold PortBuffer.frames
    rw [empty]
    rfl

end MACRelayUnitPP

/-- Both relay units keep account of their memory, dispatch each accepted frame once and keep their processors at
work in every run, and the rule for PAUSE frames holds exactly where none is due. -/
theorem relay_units (base : MACRelayUnitBase) (processingTime : SimTime) (bufferSize highWatermark pauseUnits : Int)
    (numCPUs : Nat) :
    MACRelayUnitNP.scheme.Behaves
        (.start base (.start processingTime bufferSize highWatermark pauseUnits) numCPUs) ∧
      MACRelayUnitPP.scheme.Behaves (.start base (.start processingTime bufferSize highWatermark pauseUnits)) := by
  have flow := RelayBuffer.flow_start processingTime bufferSize highWatermark pauseUnits
  constructor
  · refine RelayScheme.behaves_of_lawful MACRelayUnitNP.lawful (fun queued => (queued rfl).elim) flow rfl ?_
    refine List.append_eq_nil_iff.mpr ⟨List.flatMap_eq_nil_iff.mpr fun cpu mem => ?_, rfl⟩
    rw [(List.mem_replicate.mp mem).2]
    rfl
  · have idle : ∀ (i : Nat) (pBuff : PortBuffer), ((List.range base.numPorts).map fun i =>
        (⟨i, false, []⟩ : PortBuffer))[i]? = some pBuff → pBuff = ⟨i, false, []⟩ := fun i pBuff located => by
      rw [List.getElem?_map] at located
      obtain ⟨j, at_, rfl⟩ := Option.map_eq_some_iff.mp located
      rw [(List.getElem?_eq_some_iff.mp at_).2.symm, List.getElem_range]
    refine RelayScheme.behaves_of_lawful MACRelayUnitPP.lawful ⟨fun i pBuff located => ?_, fun i pBuff located => ?_,
      fun i pBuff located => ?_, List.nodup_nil⟩ flow rfl (List.flatMap_eq_nil_iff.mpr fun pBuff mem => ?_)
    · rw [idle i pBuff located]
    · rw [idle i pBuff located]
      exact iff_of_false Bool.false_ne_true fun queued => queued rfl
    · rw [idle i pBuff located]
      exact iff_of_false Bool.false_ne_true List.not_mem_nil
    · obtain ⟨i, located⟩ := List.mem_iff_getElem?.mp mem
      rw [idle i pBuff located]
      rfl

def exampleRelayBase : MACRelayUnitBase := ⟨3, 0, 10, ∅⟩

def exampleArrivedFrame (dest : MACAddress) : ArrivedFrame := ⟨⟨.ethFrame, dest, 0xAA, 512, false⟩, 1⟩

/-- One processor with two frames, of which the first one is dispatched, and no PAUSE is due. -/
theorem relay_units_processing : ∃ es h, Runs MACRelayUnitNP.scheme.step
      (fun h e => MACRelayUnitNP.scheme.Admits h e ∧ MACRelayUnitNP.scheme.Sound h e)
      (.start (.start exampleRelayBase (.start 1 1000 100 1) 1)) es h ∧ h.dispatched = [exampleArrivedFrame 0xBB] ∧
    h.accepted.Perm (h.dispatched ++ MACRelayUnitNP.scheme.held h.unit) ∧ h.unit.memory.bufferUsed = 64 := by
  have checked : (run (fun h e => Exec.assert (MACRelayUnitNP.scheme.Admits h e ∧ MACRelayUnitNP.scheme.Sound h e) >>=
        fun _ => MACRelayUnitNP.scheme.step h e)
      (.start (.start exampleRelayBase (.start 1 1000 100 1) 1))
      [.frameIn 0 (exampleArrivedFrame 0xBB), .frameIn (1 / 1000) (exampleArrivedFrame 0xCC), .endProcessing 1 0]).map
        (fun h => decide (h.dispatched = [exampleArrivedFrame 0xBB] ∧ h.unit.memory.bufferUsed = 64)) = .ok true := by
    decide +kernel
  obtain ⟨h, runs, same⟩ := map_eq_ok checked
  obtain ⟨dispatched, used⟩ := of_decide_eq_true same
  have sound := Runs.of_checked runs
  have orderly := ((relay_units exampleRelayBase 1 1000 100 1 1).1 _ h (sound.mono fun _ _ both => both.1)).1
  exact ⟨_, h, sound, dispatched, orderly.once, used⟩

/-- A frame of 64 bytes at time 1, with a watermark of 10 bytes, brings out no PAUSE frame in either unit. -/
theorem relay_units_fails :
    ¬ (∀ e, MACRelayUnitNP.scheme.Admits (.start (.start exampleRelayBase (.start 1 1000 10 1) 1)) e → ∀ after,
      MACRelayUnitNP.scheme.outcome (.start (.start exampleRelayBase (.start 1 1000 10 1) 1)) e = .ok after →
        MACRelayUnitNP.scheme.Paused (.start (.start exampleRelayBase (.start 1 1000 10 1) 1)) e after) ∧
    ¬ (∀ e, MACRelayUnitPP.scheme.Admits (.start (.start exampleRelayBase (.start 1 1000 10 1))) e → ∀ after,
      MACRelayUnitPP.scheme.outcome (.start (.start exampleRelayBase (.start 1 1000 10 1))) e = .ok after →
        MACRelayUnitPP.scheme.Paused (.start (.start exampleRelayBase (.start 1 1000 10 1))) e after) := by
  have shared : (MACRelayUnitNP.scheme.outcome (.start (.start exampleRelayBase (.start 1 1000 10 1) 1))
      (.frameIn 1 (exampleArrivedFrame 0xBB))).map (fun after => decide (after.2 = [] ∧ RelayScheme.PauseDue
        (.start 1 1000 10 1) after.1.unit.memory.bufferUsed 1)) = .ok true := by
    decide +kernel
  have ported : (MACRelayUnitPP.scheme.outcome (.start (.start exampleRelayBase (.start 1 1000 10 1)))
      (.frameIn 1 (exampleArrivedFrame 0xBB))).map (fun after => decide (after.2 = [] ∧ RelayScheme.PauseDue
        (.start 1 1000 10 1) after.1.unit.memory.bufferUsed 1)) = .ok true := by
    decide +kernel
  obtain ⟨after, outcomes, same⟩ := map_eq_ok shared
  obtain ⟨silent, due⟩ := of_decide_eq_true same
  obtain ⟨after', outcomes', same'⟩ := map_eq_ok ported
  obtain ⟨silent', due'⟩ := of_decide_eq_true same'
  constructor
  · intro paused
    have sent := paused (.frameIn 1 (exampleArrivedFrame 0xBB)) (by decide +kernel) after outcomes (by decide +kernel) due 0
      (by decide +kernel)
    rw [silent] at sent
    cases sent
  · intro paused
    have sent := paused (.frameIn 1 (exampleArrivedFrame 0xBB)) (by decide +kernel) after' outcomes' (by decide +kernel) due' 0
      (by decide +kernel)
    rw [silent'] at sent
    cases sent

end IPv6Suite
