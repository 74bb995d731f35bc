import IPv6Suite.MeasuredDatagram
import IPv6Suite.SourceAddress

namespace IPv6Suite

open Lib

/-- A datagram with the payload length of its header and the protocol of what it carries -/
structure SizedDatagram where
  measured : MeasuredDatagram
  payloadLength : BitVec 16
  transportProtocol : Int
deriving DecidableEq

namespace SizedDatagram

def ipv6HeaderOctetLength : Nat := 40

def create (src dest : Ipv6Addr) : SizedDatagram := ⟨.create src dest, 0, 0⟩

def byteLength (d : SizedDatagram) : Nat := d.measured.length / 8

/-- `1<<16 - 1` is 2^15. -/
def totalLength (d : SizedDatagram) : Exec Nat := do
  Exec.assert (ipv6HeaderOctetLength + d.payloadLength.toNat ≤ 2 ^ (16 - 1))
  return ipv6HeaderOctetLength + d.payloadLength.toNat

/-- Nothing calls it. -/
def setTotalLength (len : Nat) (d : SizedDatagram) : SizedDatagram :=
  { d with payloadLength := BitVec.ofNat 16 (len - ipv6HeaderOctetLength) }

def withDgram (d : SizedDatagram) (dgram : IPv6Datagram) : SizedDatagram :=
  { d with measured := { d.measured with dgram } }

def dup (d : SizedDatagram) : SizedDatagram := d.withDgram d.measured.dgram.dup

/-- `operator=` -/
def assign (dest rhs : SizedDatagram) : SizedDatagram := rhs.withDgram (dest.measured.dgram.assign rhs.measured.dgram)

/-- The length of the message that is taken out is taken off, which may not leave a negative one. -/
def decapsulate (d : SizedDatagram) : Exec SizedDatagram :=
  match d.measured.pdu with
  | none => .ok d
  | some pdu =>
      if pdu ≤ d.measured.length then
        .ok { d with measured := { d.measured with length := d.measured.length - pdu, pdu := none } }
      else .error .fatalError

/-- What is done to a datagram from its creation on -/
inductive Op where
  | carry (op : MeasuredDatagram.Op)
  | decapsulate
  | dup
  | assign (dest : SizedDatagram)
  | setSrcAddress (addr : Ipv6Addr)
  | setDestAddress (addr : Ipv6Addr)
  | setHopLimit (hopLimit : BitVec 16)
  | setInputPort (port : Int)
  | setOutputPort (port : Int)
  | setTransportProtocol (protocol : Int)

def step (d : SizedDatagram) : Op → Exec SizedDatagram
  | .carry op => do return { d with measured := ← d.measured.step op }
  | .decapsulate => d.decapsulate
  | .dup => .ok d.dup
  | .assign dest => .ok (dest.assign d)
  | .setSrcAddress addr => .ok (d.withDgram { d.measured.dgram with srcAddress := addr })
  | .setDestAddress addr => .ok (d.withDgram { d.measured.dgram with destAddress := addr })
  | .setHopLimit hopLimit => .ok (d.withDgram { d.measured.dgram with hopLimit })
  | .setInputPort port => .ok (d.withDgram { d.measured.dgram with inputPort := port })
  | .setOutputPort port => .ok (d.withDgram { d.measured.dgram with outputPort := port })
  | .setTransportProtocol protocol => .ok { d with transportProtocol := protocol }

variable {d d' : SizedDatagram}

theorem totalLength_setTotalLength {len : Nat} (header : 40 ≤ len) (short : len ≤ 2 ^ 15) :
    (d.setTotalLength len).totalLength = .ok len := by
  have payload : (BitVec.ofNat 16 (len - 40)).toNat = len - 40 := by
    rw [BitVec.toNat_ofNat, Nat.mod_eq_of_lt (by omega)]
  have whole : ipv6HeaderOctetLength + (d.setTotalLength len).payloadLength.toNat = len := by
    show 40 + (BitVec.ofNat 16 (len - 40)).toNat = len
    omega
  unfold totalLength
  rw [whole]
  apply bind_eq_ok.mpr
  exact ⟨(), assert_pos short, rfl⟩

theorem step_payloadLength {op : Op} (steps : d.step op = .ok d') : d'.payloadLength = d.payloadLength := by
  cases op with
  | carry op =>
      obtain ⟨measured, -, ends⟩ := bind_eq_ok.mp steps
      cases ends
      rfl
  | decapsulate =>
      change d.decapsulate = .ok d' at steps
      unfold decapsulate at steps
      split at steps
      · cases steps
        rfl
      · split at steps
        · cases steps
          rfl
        · cases steps
  | _ =>
      cases steps
      rfl

theorem run_payloadLength {ops : List Op} (runs : run step d ops = .ok d') : d'.payloadLength = d.payloadLength := by
  apply (Runs.of_run runs).invariant (·.payloadLength = d.payloadLength)
  · intro s op s' same _ steps
    rw [step_payloadLength steps, same]
  · rfl

theorem run_totalLength {src dest : Ipv6Addr} {ops : List Op} (runs : run step (create src dest) ops = .ok d) :
    d.totalLength = .ok 40 := by
  have empty : d.payloadLength = 0 := run_payloadLength runs
  unfold totalLength
  rw [empty]
  rfl

end SizedDatagram

/-- The MTU is an `int` that is read as an `unsigned int`. -/
structure LinkInterface where
  mtu : BitVec 32
  curHopLimit : BitVec 16
deriving DecidableEq

structure IPv6Fragmentation where
  ports : List LinkInterface
  loopback : LinkInterface
  isRouter : Bool
  numOfPorts : Nat
  ctrIP6InTooBig : BitVec 32
deriving DecidableEq

inductive FragmentationOutput where
  | outputOut (port : Nat) (datagram : SizedDatagram) (destLLAddr : String)
  | pkTooBig (contents : SizedDatagram) (optInfo : Nat)
deriving DecidableEq

namespace IPv6Fragmentation

def ipv6MinMTU : Nat := 1280

def protICMP : Int := 58

def interfaceByPortNo (s : IPv6Fragmentation) (portNo : Int) : Option LinkInterface :=
  if portNo = -1 then some s.loopback else if 0 ≤ portNo then s.ports[portNo.toNat]? else none

def outputPort (s : IPv6Fragmentation) (info : AddrResInfo) : Option Nat :=
  if 0 ≤ portNo info.ifIndex ∧ (portNo info.ifIndex).toNat < s.numOfPorts then some (portNo info.ifIndex).toNat
  else none

def sendOutput (s : IPv6Fragmentation) (info : AddrResInfo) (datagram : SizedDatagram) : Exec FragmentationOutput :=
  match s.outputPort info with
  | none => .error .fatalError
  | some port => .ok (.outputOut port datagram info.linkLayerAddr)

def initHopLimit (s : IPv6Fragmentation) (ie : LinkInterface) (datagram : SizedDatagram) : SizedDatagram :=
  let dgram := datagram.measured.dgram
  if dgram.inputPort = -1 ∧ dgram.hopLimit = 0 then
    datagram.withDgram
      { dgram with hopLimit := if s.isRouter then defaultRouterHopLimit else ie.curHopLimit }
  else datagram

/-- A datagram of this node that is too long ends with the error "fragmentation not implemented". -/
def endService (s : IPv6Fragmentation) (info : AddrResInfo) (datagram : SizedDatagram) :
    Exec (FragmentationOutput × IPv6Fragmentation) := do
  let ie ← Exec.deref .nullDeref (s.interfaceByPortNo (portNo info.ifIndex))
  let mtu := ie.mtu.toNat
  Exec.assert (ipv6MinMTU ≤ mtu)
  let datagram := s.initHopLimit ie datagram
  let totalLength ← datagram.totalLength
  if totalLength ≤ mtu then
    let out ← s.sendOutput info datagram
    return (out, s)
  else if datagram.measured.dgram.inputPort ≠ -1 ∨ datagram.transportProtocol = protICMP then
    Exec.assert (datagram.transportProtocol ≠ protICMP)
    let tooBig := if datagram.measured.dgram.inputPort ≠ -1 then s.ctrIP6InTooBig + 1 else s.ctrIP6InTooBig
    return (.pkTooBig datagram.dup mtu, { s with ctrIP6InTooBig := tooBig })
  else .error .fatalError

variable {s s' : IPv6Fragmentation} {info : AddrResInfo} {ie : LinkInterface} {d sent : SizedDatagram} {port : Nat}
  {llAddr : String}

theorem initHopLimit_payloadLength (s : IPv6Fragmentation) (ie : LinkInterface) (d : SizedDatagram) :
    (s.initHopLimit ie d).payloadLength = d.payloadLength := by
  unfold initHopLimit
  dsimp only
  split
  · rfl
  · rfl

theorem initHopLimit_byteLength (s : IPv6Fragmentation) (ie : LinkInterface) (d : SizedDatagram) :
    (s.initHopLimit ie d).byteLength = d.byteLength := by
  unfold initHopLimit
  dsimp only
  split
  · rfl
  · rfl

theorem initHopLimit_totalLength (s : IPv6Fragmentation) (ie : LinkInterface) (d : SizedDatagram) :
    (s.initHopLimit ie d).totalLength = d.totalLength := by
  unfold SizedDatagram.totalLength
  rw [initHopLimit_payloadLength]

theorem endService_outputOut_iff (found : s.interfaceByPortNo (portNo info.ifIndex) = some ie)
    (conforms : ipv6MinMTU ≤ ie.mtu.toNat) : s.endService info d = .ok (.outputOut port sent llAddr, s') ↔
      (∃ len, d.totalLength = .ok len ∧ len ≤ ie.mtu.toNat) ∧ s.outputPort info = some port ∧
        sent = s.initHopLimit ie d ∧ llAddr = info.linkLayerAddr ∧ s' = s := by
  unfold endService
  rw [found, deref_some, ok_bind]
  dsimp only
  rw [assert_pos conforms, ok_bind, initHopLimit_totalLength]
  cases total : d.totalLength with
  | error fault =>
      apply iff_of_false
      · exact nofun
      · rintro ⟨⟨len, missing, -⟩, -⟩
        cases missing
  | ok len =>
      rw [ok_bind]
      by_cases fits : len ≤ ie.mtu.toNat
      · rw [if_pos fits]
        unfold sendOutput
        cases legal : s.outputPort info with
        | none =>
            apply iff_of_false
            · exact nofun
            · rintro ⟨-, absurd, -⟩
              cases absurd
        | some p =>
            constructor
            · intro passes
              cases passes
              exact ⟨⟨len, rfl, fits⟩, rfl, rfl, rfl, rfl⟩
            · rintro ⟨-, here, rfl, rfl, rfl⟩
              cases here
              rfl
      · rw [if_neg fits]
        apply iff_of_false
        · intro passes
          split at passes
          · obtain ⟨_, _, ends⟩ := bind_eq_ok.mp passes
            cases ends
          · cases passes
        · rintro ⟨⟨_, same, short⟩, -⟩
          cases same
          exact fits short

theorem setTotalLength_fits (header : 40 ≤ d.byteLength) (short : d.byteLength ≤ 2 ^ 15)
    (passes : s.endService info (d.setTotalLength d.byteLength) = .ok (.outputOut port sent llAddr, s')) :
    ∃ ie, s.interfaceByPortNo (portNo info.ifIndex) = some ie ∧ sent.byteLength ≤ ie.mtu.toNat := by
  obtain ⟨ie, found, checks⟩ := bind_eq_ok.mp passes
  obtain ⟨_, conforms, -⟩ := bind_eq_ok.mp checks
  rw [deref_eq_ok] at found
  rw [assert_eq_ok] at conforms
  obtain ⟨⟨len, total, fits⟩, -, rfl, -⟩ := (endService_outputOut_iff found conforms).mp passes
  cases total.symm.trans (SizedDatagram.totalLength_setTotalLength header short)
  exact ⟨ie, found, by rwa [initHopLimit_byteLength]⟩

/-- A datagram that is passed on unfragmented fits exactly if it is short enough, or has no port to go to. -/
theorem passed_fits_iff {src dest : Ipv6Addr} {ops : List SizedDatagram.Op} {m : Nat}
    (runs : run SizedDatagram.step (.create src dest) ops = .ok d)
    (found : s.interfaceByPortNo (portNo info.ifIndex) = some ie) (mtu : ie.mtu.toInt = m) (conforms : 1280 ≤ m) :
    (∀ port sent llAddr s', s.endService info d = .ok (.outputOut port sent llAddr, s') → sent.byteLength ≤ m) ↔
      d.byteLength ≤ m ∨ s.outputPort info = none := by
  have unsigned : ie.mtu.toNat = m := by
    rw [BitVec.toInt_eq_toNat_cond] at mtu
    split at mtu
    · omega
    · have bound := ie.mtu.isLt
      omega
  have conforming : ipv6MinMTU ≤ ie.mtu.toNat := by
    rw [unsigned]
    exact conforms
  have total := SizedDatagram.run_totalLength runs
  constructor
  · intro fits
    cases legal : s.outputPort info with
    | none => exact .inr rfl
    | some port =>
        apply Or.inl
        have passes := (endService_outputOut_iff found conforming).mpr
          ⟨⟨40, total, by rw [unsigned]; omega⟩, legal, rfl, rfl, rfl⟩
        have short := fits _ _ _ _ passes
        rwa [initHopLimit_byteLength] at short
  · intro short port sent llAddr s' passes
    obtain ⟨-, legal, rfl, -⟩ := (endService_outputOut_iff found conforming).mp passes
    rw [initHopLimit_byteLength]
    rcases short with short | illegal
    · exact short
    · rw [illegal] at legal
      cases legal

def etherHost : IPv6Fragmentation := ⟨[⟨1500, 64⟩], ⟨3924, 64⟩, false, 1, 0⟩

/-- A datagram with a message of 2000 octets -/
def longDatagram : SizedDatagram :=
  { SizedDatagram.create .unspecified .loopback with
    measured := { MeasuredDatagram.create .unspecified .loopback with length := 16320, pdu := some 16000 } }

theorem passed_fits_iff_longDatagram :
    (∀ port sent llAddr s', etherHost.endService .create longDatagram = .ok (.outputOut port sent llAddr, s') →
        sent.byteLength ≤ 1500) ↔
      longDatagram.byteLength ≤ 1500 ∨ etherHost.outputPort .create = none :=
  passed_fits_iff
    (show run SizedDatagram.step (.create .unspecified .loopback) [.carry (.encapsulate 16000)] = .ok longDatagram
      from rfl)
    (show etherHost.interfaceByPortNo 0 = some ⟨1500, 64⟩ from rfl) rfl (by decide)

/-- It is passed on to a link with an MTU of 1500 octets. -/
theorem longDatagram_passed :
    run SizedDatagram.step (.create .unspecified .loopback) [.carry (.encapsulate 16000)] = .ok longDatagram ∧
      etherHost.endService .create longDatagram =
        .ok (.outputOut 0 (etherHost.initHopLimit ⟨1500, 64⟩ longDatagram) "", etherHost) ∧
      (etherHost.initHopLimit ⟨1500, 64⟩ longDatagram).byteLength = 2040 := by
  decide

end IPv6Fragmentation

end IPv6Suite
