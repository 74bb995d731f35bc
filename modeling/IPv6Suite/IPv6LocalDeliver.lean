import IPv6Suite.MIPv6CDS
import IPv6Suite.SourceRoute

namespace IPv6Suite

open Lib

/-- What local delivery sends besides the messages to the upper layers -/
inductive DeliverOutput where
  | route (output : RouteOutput)
  | be (status : Nat) (hoa srcAddress destAddress : Ipv6Addr)
deriving DecidableEq

namespace IPv6Datagram

/-- The option `k` of the extension header `j` -/
def destOpt (d : IPv6Datagram) (j k : Nat) : Option Ipv6Addr :=
  d.extHdrs[j]?.bind (·.destOpts[k]?)

def setDestOpt (d : IPv6Datagram) (j k : Nat) (homeAddr : Ipv6Addr) : IPv6Datagram :=
  { d with
    extHdrs := d.extHdrs.modify j fun proc =>
      { proc with destOpts := proc.destOpts.set k homeAddr } }

/-- `sendBE`, with the home address of the first destination options header -/
def sendBE (d : IPv6Datagram) (status : Nat) : Exec (List DeliverOutput) := do
  let proc ← d.findHeader .dest
  let hoa := ((proc.bind (d.extHdrs[·]?)).bind (·.getOption)).getD .unspecified
  if d.srcAddress.isMulticast then return []
  else return [.be status hoa d.destAddress d.srcAddress]

/-- `processReceivedHoADestOpt`: except for Binding Updates, the binding of the home address has the
source of the datagram as its care-of address. -/
def processReceivedHoADestOpt (d : IPv6Datagram) (bc : BindingCache) (hoa : Ipv6Addr) :
    Exec (Bool × List DeliverOutput) :=
  match d.encapsulatedMsg with
  | .mobility true _ => .ok (true, [])
  | _ =>
      if (bc.findBinding hoa).any (·.careOfAddr = d.srcAddress) then .ok (true, [])
      else do
        let sent ← d.sendBE 1
        return (false, sent)

/-- `MIPv6TLVOptHomeAddress::processOption`: source and home address change places, unless the
message is a mobility message. -/
def processOption (d : IPv6Datagram) (bc : BindingCache) (j k : Nat) :
    Exec (Bool × IPv6Datagram × List DeliverOutput) := do
  let homeAddr ← Exec.deref .nullDeref (d.destOpt j k)
  let (success, sent) ← d.processReceivedHoADestOpt bc homeAddr
  if success then
    match d.encapsulatedMsg with
    | .mobility _ _ => return (true, d, sent)
    | _ => return (true, { d.setDestOpt j k d.srcAddress with srcAddress := homeAddr }, sent)
  else return (false, d, sent)

/-- The loop of `HdrExtDestProc::processHeader` from the option `k` on. -/
def processDestOpts (bc : BindingCache) (j : Nat) : (count k : Nat) → IPv6Datagram →
    Exec (Bool × IPv6Datagram × List DeliverOutput)
  | 0, _, d => .ok (true, d, [])
  | count + 1, k, d => do
      let (success, d, sent) ← d.processOption bc j k
      if success then
        let (success, d, later) ← processDestOpts bc j count (k + 1) d
        return (success, d, sent ++ later)
      else return (false, d, sent)

/-- The loop of `processDatagram` from the extension header `j` on, with `localdeliver`. -/
def processHeaders (bc : BindingCache) : (count j : Nat) → (localdeliver : Bool) → IPv6Datagram →
    Exec (Bool × Bool × IPv6Datagram × List DeliverOutput)
  | 0, _, localdeliver, d => .ok (true, localdeliver, d, [])
  | count + 1, j, localdeliver, d => do
      let proc ← Exec.deref .nullDeref d.extHdrs[j]?
      match proc.type with
      | .dest => do
          let (success, d, sent) ← processDestOpts bc j proc.destOpts.length 0 d
          if success then
            let (success, localdeliver, d, later) ← processHeaders bc count (j + 1) localdeliver d
            return (success, localdeliver, d, sent ++ later)
          else return (false, localdeliver, d, sent)
      | .routing =>
          if proc.isSegmentsLeft then do
            let (success, d, sent) ← processRheads j proc.rheads.length 0 (d.cumulLengthInUnits j) d
            let sent := sent.map .route
            if success then
              let (success, localdeliver, d, later) ← processHeaders bc count (j + 1) false d
              return (success, localdeliver, d, sent ++ later)
            else return (false, false, d, sent)
          else processHeaders bc count (j + 1) true d
      | .fragment => .error .fatalError
      | _ => processHeaders bc count (j + 1) localdeliver d

/-- `processDatagram`, with whether the datagram goes to an upper layer. -/
def processDatagram (d : IPv6Datagram) (bc : BindingCache) :
    Exec (Bool × IPv6Datagram × List DeliverOutput) := do
  let (success, localdeliver, d, sent) ← processHeaders bc d.extHdrs.length 0 true d
  return (success && localdeliver, d, sent)

/-- What a datagram is for the upper layers of a node. A datagram that goes back to routing comes
again if its destination is an address of the node itself (`own`). -/
def deliver (bc : BindingCache) (own : Ipv6Addr → Bool) : Nat → IPv6Datagram →
    Exec (Option IPv6Datagram)
  | 0, _ => .ok none
  | passes + 1, d => do
      let (delivered, d, sent) ← d.processDatagram bc
      if delivered then return some d
      else
        match sent with
        | [.route (.routingOut next)] =>
            if own next.destAddress then deliver bc own passes next else return none
        | _ => return none

end IPv6Datagram

end IPv6Suite
