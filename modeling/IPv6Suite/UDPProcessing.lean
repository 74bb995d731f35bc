import IPv6Suite.IPvXAddress
import IPv6Suite.Lib.Machine
import IPv6Suite.Lib.StdMap
import Mathlib.Order.Defs.LinearOrder
import Mathlib.Data.Int.Order.Basic

namespace IPv6Suite

open Lib

/-- What the IP layer says of a packet. Its addresses are taken from an `IPControlInfo` or an
`IPv6ControlInfo`. -/
structure NetworkControlInfo where
  srcAddr : IPvXAddress
  destAddr : IPvXAddress
  inputPort : Int
deriving DecidableEq

structure UDPPacket (α : Type) where
  sourcePort : Int
  destinationPort : Int
  hasBitError : Bool
  controlInfo : Option NetworkControlInfo
  payload : α
deriving DecidableEq

structure UDPControlInfo where
  srcAddr : IPvXAddress
  destAddr : IPvXAddress
  srcPort : Int
  destPort : Int
  inputPort : Int
deriving DecidableEq

/-- `gateSize` is the number of gates from and to the applications. -/
structure UDPProcessing where
  gateSize : Nat
  dispatchByPort : Bool
  port2indexMap : StdMap Int Nat (· < ·)

namespace UDPProcessing

variable {α : Type}

/-- The module after `initialize`: everything goes to gate 0 with one application that has no port bound. -/
def start (gateSize : Nat) : UDPProcessing := ⟨gateSize, gateSize ≠ 1, ∅⟩

def bind (u : UDPProcessing) (gateIndex : Nat) (udpPort : Int) : Exec UDPProcessing :=
  if udpPort ∈ u.port2indexMap then .error .fatalError
  else .ok { u with dispatchByPort := false, port2indexMap := u.port2indexMap.insert udpPort gateIndex }

/-- The gate is not looked at. -/
def unbind (u : UDPProcessing) (_gateIndex : Nat) (udpPort : Int) : UDPProcessing :=
  { u with port2indexMap := u.port2indexMap.erase udpPort }

def findAppGateForPort (u : UDPProcessing) (destPort : Int) : Option Nat :=
  if ¬ u.dispatchByPort then some 0 else u.port2indexMap[destPort]?

/-- The payload is sent to a gate, or the packet is dropped. -/
def processMsgFromIP (u : UDPProcessing) (udpPacket : UDPPacket α) : Exec (Option (Nat × UDPControlInfo × α)) :=
  if udpPacket.hasBitError then .ok none
  else match u.findAppGateForPort udpPacket.destinationPort with
    | none => .ok none
    | some appGateIndex => do
        let info ← Exec.deref .fatalError udpPacket.controlInfo
        return some (appGateIndex, ⟨info.srcAddr, info.destAddr, udpPacket.sourcePort, udpPacket.destinationPort,
          info.inputPort⟩, udpPacket.payload)

end UDPProcessing

/-- The ports that are bound, each to the application that has bound it, and whether one ever was -/
structure PortBindings where
  boundTo : Int → Option Nat
  ever : Bool

namespace PortBindings

def start : PortBindings := ⟨fun _ => none, false⟩

def bind (b : PortBindings) (app : Nat) (port : Int) : PortBindings :=
  ⟨Function.update b.boundTo port (some app), true⟩

/-- An application removes its own bindings alone. -/
def unbind (b : PortBindings) (app : Nat) (port : Int) : PortBindings :=
  if b.boundTo port = some app then { b with boundTo := Function.update b.boundTo port none } else b

/-- Where a packet goes: a single application gets every packet until it binds a port. -/
def receiver (b : PortBindings) (apps : Nat) (port : Int) : Option Nat :=
  if apps = 1 ∧ ¬ b.ever then some 0 else b.boundTo port

end PortBindings

/-- The module with the bindings that the commands ask for -/
structure UDPHistory where
  udp : UDPProcessing
  bindings : PortBindings

namespace UDPHistory

inductive Event (α : Type) where
  | fromIP (udpPacket : UDPPacket α)
  | bind (gateIndex : Nat) (udpPort : Int)
  | unbind (gateIndex : Nat) (udpPort : Int)

variable {α : Type} {h h' : UDPHistory} {e : Event α} {es : List (Event α)}

def start (gateSize : Nat) : UDPHistory := ⟨.start gateSize, .start⟩

def step (h : UDPHistory) : Event α → Exec UDPHistory
  | .fromIP udpPacket => do
      let _ ← h.udp.processMsgFromIP udpPacket
      return h
  | .bind gateIndex udpPort => do
      let udp ← h.udp.bind gateIndex udpPort
      return ⟨udp, h.bindings.bind gateIndex udpPort⟩
  | .unbind gateIndex udpPort => .ok ⟨h.udp.unbind gateIndex udpPort, h.bindings.unbind gateIndex udpPort⟩

/-- A packet without bit error that the IP layer has given its control info, or a command from a gate -/
def Admits (h : UDPHistory) : Event α → Prop
  | .fromIP udpPacket => udpPacket.hasBitError = false ∧ udpPacket.controlInfo.isSome
  | .bind gateIndex _ | .unbind gateIndex _ => gateIndex < h.udp.gateSize

/-- A packet goes to the receiver of its port alone, with its data, and an unbinding removes no binding of
another application. -/
def Kept (h : UDPHistory) : Event α → Prop
  | .fromIP udpPacket => ∀ info ∈ udpPacket.controlInfo, h.udp.processMsgFromIP udpPacket =
      .ok ((h.bindings.receiver h.udp.gateSize udpPacket.destinationPort).map (·,
        ⟨info.srcAddr, info.destAddr, udpPacket.sourcePort, udpPacket.destinationPort, info.inputPort⟩,
        udpPacket.payload))
  | .bind _ _ => True
  | .unbind gateIndex udpPort => ∀ (port : Int) (app : Nat), h.udp.port2indexMap[port]? = some app →
      (h.udp.unbind gateIndex udpPort).port2indexMap[port]? ≠ some app → app = gateIndex

/-- No port was ever bound or the application at gate 0 has the port of the packet bound, and a port that is
unbound is not bound to another application. -/
def Sound (h : UDPHistory) : Event α → Prop
  | .fromIP udpPacket => h.bindings.ever = true → h.bindings.boundTo udpPacket.destinationPort = some 0
  | .bind _ _ => True
  | .unbind gateIndex udpPort => ∀ app ∈ h.bindings.boundTo udpPort, app = gateIndex

instance (h : UDPHistory) : (e : Event α) → Decidable (h.Admits e)
  | .fromIP _ => inferInstanceAs (Decidable (_ ∧ _))
  | .bind _ _ | .unbind _ _ => inferInstanceAs (Decidable (_ < _))

instance (h : UDPHistory) : (e : Event α) → Decidable (h.Sound e)
  | .fromIP _ => inferInstanceAs (Decidable (_ → _))
  | .bind _ _ => isTrue trivial
  | .unbind _ udpPort => inferInstanceAs (Decidable (∀ app ∈ h.bindings.boundTo udpPort, _))

/-- The map is that of the bindings, and ports are looked at only before the first one is bound. -/
structure Follows (gateSize : Nat) (h : UDPHistory) : Prop where
  size : h.udp.gateSize = gateSize
  map : ∀ port, h.udp.port2indexMap[port]? = h.bindings.boundTo port
  dispatch : h.udp.dispatchByPort = true ↔ h.bindings.ever = false ∧ gateSize ≠ 1
  unbound : h.bindings.ever = false → ∀ port, h.bindings.boundTo port = none

theorem follows_start (gateSize : Nat) : (start gateSize).Follows gateSize where
  size := rfl
  map _ := Std.TreeMap.getElem?_emptyc
  dispatch := decide_eq_true_iff.trans (and_iff_right rfl).symm
  unbound _ _ := rfl

theorem follows_bind {gateSize gateIndex : Nat} {udpPort : Int} (follows : h.Follows gateSize)
    (steps : h.step (.bind gateIndex udpPort : Event α) = .ok h') : h'.Follows gateSize := by
  obtain ⟨udp, binds, ends⟩ := bind_eq_ok.mp steps
  cases ends
  unfold UDPProcessing.bind at binds
  split at binds
  · cases binds
  · cases binds
    refine ⟨follows.size, fun port => ?_, iff_of_false Bool.false_ne_true (nomatch ·.1), nofun⟩
    change (h.udp.port2indexMap.insert udpPort gateIndex)[port]? =
      Function.update h.bindings.boundTo udpPort (some gateIndex) port
    by_cases own : port = udpPort
    · subst own
      rw [StdMap.getElem?_insert_self, Function.update_self]
    · rw [StdMap.getElem?_insert_ne (Ne.symm own), Function.update_of_ne own, follows.map]

theorem follows_unbind {gateSize gateIndex : Nat} {udpPort : Int} (follows : h.Follows gateSize)
    (sound : h.Sound (.unbind gateIndex udpPort : Event α)) :
    Follows gateSize ⟨h.udp.unbind gateIndex udpPort, h.bindings.unbind gateIndex udpPort⟩ := by
  have removed : h.bindings.unbind gateIndex udpPort =
      { h.bindings with boundTo := Function.update h.bindings.boundTo udpPort none } := by
    unfold PortBindings.unbind
    split
    · rfl
    · have none : h.bindings.boundTo udpPort = none := by
        cases bound : h.bindings.boundTo udpPort with
        | none => rfl
        | some app =>
            cases sound app bound
            exact (‹¬ _› bound).elim
      rw [← none, Function.update_eq_self]
  rw [removed]
  refine ⟨follows.size, fun port => ?_, follows.dispatch, fun never port => ?_⟩
  · change (h.udp.port2indexMap.erase udpPort)[port]? = Function.update h.bindings.boundTo udpPort none port
    by_cases own : port = udpPort
    · subst own
      rw [StdMap.getElem?_erase_self, Function.update_self]
    · rw [StdMap.getElem?_erase_ne (Ne.symm own), Function.update_of_ne own, follows.map]
  · change Function.update h.bindings.boundTo udpPort none port = none
    by_cases own : port = udpPort
    · rw [own, Function.update_self]
    · rw [Function.update_of_ne own, follows.unbound never]

theorem follows_step {gateSize : Nat} (follows : h.Follows gateSize) (sound : h.Sound e)
    (steps : h.step e = .ok h') : h'.Follows gateSize := by
  cases e with
  | fromIP udpPacket =>
      obtain ⟨_, _, ends⟩ := bind_eq_ok.mp steps
      cases ends
      exact follows
  | bind gateIndex udpPort => exact follows_bind follows steps
  | unbind gateIndex udpPort =>
      cases steps
      exact follows_unbind follows sound

theorem findAppGateForPort_iff {gateSize : Nat} (follows : h.Follows gateSize) (port : Int) :
    h.udp.findAppGateForPort port = h.bindings.receiver gateSize port ↔
      (h.bindings.ever = true → h.bindings.boundTo port = some 0) := by
  have dispatch := follows.dispatch
  unfold UDPProcessing.findAppGateForPort PortBindings.receiver
  rw [follows.map]
  cases ever : h.bindings.ever with
  | true =>
      have off : ¬ h.udp.dispatchByPort = true := fun on => by
        cases ever.symm.trans (dispatch.mp on).1
      rw [if_pos off, if_neg fun both => both.2 rfl]
      exact ⟨fun same _ => same.symm, fun bound => (bound rfl).symm⟩
  | false =>
      refine iff_of_true ?_ nofun
      by_cases single : gateSize = 1
      · have off : ¬ h.udp.dispatchByPort = true := fun on => (dispatch.mp on).2 single
        rw [if_pos off, if_pos ⟨single, Bool.false_ne_true⟩]
      · rw [if_neg (not_not.mpr (dispatch.mpr ⟨ever, single⟩)), if_neg fun both => single both.1]

theorem kept_iff {gateSize : Nat} (follows : h.Follows gateSize) (admits : h.Admits e) : h.Kept e ↔ h.Sound e := by
  cases e with
  | fromIP udpPacket =>
      obtain ⟨intact, given⟩ := admits
      obtain ⟨info, given⟩ := Option.isSome_iff_exists.mp given
      refine Iff.trans ?_ (findAppGateForPort_iff follows udpPacket.destinationPort)
      have processes : h.udp.processMsgFromIP udpPacket =
          .ok ((h.udp.findAppGateForPort udpPacket.destinationPort).map (·,
            ⟨info.srcAddr, info.destAddr, udpPacket.sourcePort, udpPacket.destinationPort, info.inputPort⟩,
            udpPacket.payload)) := by
        unfold UDPProcessing.processMsgFromIP
        rw [intact, if_neg Bool.false_ne_true, given]
        cases h.udp.findAppGateForPort udpPacket.destinationPort <;> rfl
      change (∀ info ∈ udpPacket.controlInfo, h.udp.processMsgFromIP udpPacket = _) ↔ _
      rw [processes, follows.size, given]
      refine ⟨fun same => ?_, fun same info' given' => ?_⟩
      · have equal := Except.ok.inj (same info rfl)
        exact Option.map_injective (fun a b pair => congrArg Prod.fst pair) equal
      · cases given'
        rw [same]
  | bind gateIndex udpPort => exact Iff.rfl
  | unbind gateIndex udpPort =>
      refine ⟨fun kept app bound => ?_, fun sound port app bound removed => ?_⟩
      · refine kept udpPort app ((follows.map udpPort).trans bound) ?_
        rw [show (h.udp.unbind gateIndex udpPort).port2indexMap[udpPort]? = none from StdMap.getElem?_erase_self]
        nofun
      · by_cases own : port = udpPort
        · subst own
          exact sound app ((follows.map port).symm.trans bound)
        · exact (removed ((StdMap.getElem?_erase_ne (Ne.symm own)).trans bound)).elim

end UDPHistory

/-- In a run of sound steps, the map is that of the bindings, and in each state of it the sound steps are those
that deliver a packet to its receiver and remove no binding of another application. -/
theorem udp_dispatch {α : Type} (gateSize : Nat) {es : List (UDPHistory.Event α)} {h : UDPHistory}
    (runs : Runs UDPHistory.step (fun h e => h.Admits e ∧ h.Sound e) (.start gateSize) es h) :
    (∀ port, h.udp.port2indexMap[port]? = h.bindings.boundTo port) ∧
      ∀ e : UDPHistory.Event α, h.Admits e → (h.Kept e ↔ h.Sound e) := by
  have follows : h.Follows gateSize := runs.invariant _
    (fun h e h' follows meets steps => UDPHistory.follows_step follows meets.2 steps) (UDPHistory.follows_start gateSize)
  exact ⟨follows.map, fun e admits => UDPHistory.kept_iff follows admits⟩

def exampleHost : IPvXAddress := ⟨⟨0x0a000001#32, 0, 0, 0⟩, false⟩

def exampleUDPPacket (destinationPort : Int) : UDPPacket Unit :=
  ⟨1000, destinationPort, false, some ⟨exampleHost, exampleHost, 0⟩, ()⟩

/-- The application at gate 0 has a port bound, and gets what is sent to it. -/
theorem udp_dispatch_bound : ∃ (es : List (UDPHistory.Event Unit)) (h : UDPHistory), Runs UDPHistory.step (fun h e => h.Admits e ∧ h.Sound e) (.start 2) es h ∧
    h.udp.port2indexMap[(5 : Int)]? = some 0 ∧ h.Kept (.fromIP (exampleUDPPacket 5)) := by
  have checked : (run (fun h e => Exec.assert (h.Admits e ∧ h.Sound e) >>= fun _ => h.step e) (UDPHistory.start 2)
      [.fromIP (exampleUDPPacket 5), .bind 0 5, .fromIP (exampleUDPPacket 5), .bind 1 6, .unbind 1 6]).map
        (fun h => decide (h.bindings.boundTo 5 = some 0)) = .ok true := by
    decide +kernel
  obtain ⟨h, runs, same⟩ := map_eq_ok checked
  have bound := of_decide_eq_true same
  have sound := Runs.of_checked runs
  obtain ⟨map, kept⟩ := udp_dispatch 2 sound
  exact ⟨_, h, sound, (map 5).trans bound, (kept (.fromIP (exampleUDPPacket 5)) ⟨rfl, rfl⟩).mpr fun _ => bound⟩

/-- What is sent to a port of the second application goes to the first one, and the first one can unbind it. -/
theorem udp_dispatch_fails : ∃ (es : List (UDPHistory.Event Unit)) (h : UDPHistory), Runs UDPHistory.step (fun h e => h.Admits e) (.start 2) es h ∧
    h.udp.processMsgFromIP (exampleUDPPacket 5) = .ok (some (0, ⟨exampleHost, exampleHost, 1000, 5, 0⟩, ())) ∧
    h.udp.port2indexMap[(5 : Int)]? = some 1 ∧ (h.udp.unbind 0 5).port2indexMap[(5 : Int)]? = none := by
  have checked : (run (fun h e => Exec.assert (h.Admits e) >>= fun _ => h.step e) (UDPHistory.start 2)
      [.fromIP (exampleUDPPacket 5), .bind 1 5]).map (fun h => decide (
        h.udp.processMsgFromIP (exampleUDPPacket 5) = .ok (some (0, ⟨exampleHost, exampleHost, 1000, 5, 0⟩, ())) ∧
        h.udp.port2indexMap[(5 : Int)]? = some 1 ∧ (h.udp.unbind 0 5).port2indexMap[(5 : Int)]? = none)) = .ok true := by
    decide +kernel
  obtain ⟨h, runs, same⟩ := map_eq_ok checked
  exact ⟨_, h, Runs.of_checked runs, of_decide_eq_true same⟩

end IPv6Suite
