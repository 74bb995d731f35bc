import IPv6Suite.Lib.Exec
import IPv6Suite.MIPv6CDS

namespace IPv6Suite

open Lib

/-- A Binding Acknowledgement with its type 2 routing header, if it has one -/
structure BADatagram where
  srcAddress : Ipv6Addr
  destAddress : Ipv6Addr
  type2 : Option Ipv6Addr
  ba : BA
deriving DecidableEq

def sendBA (srcAddr destAddr hoa : Ipv6Addr) (ba : BA) : Option BADatagram :=
  if destAddr.isMulticast then none
  else some ⟨srcAddr, destAddr, if srcAddr ≠ hoa then some hoa else none, ba⟩

def MobilityDatagram.answer (dgram : MobilityDatagram BU) (hoa : Ipv6Addr) (ba : BA) :
    Option BADatagram := sendBA dgram.destAddress dgram.srcAddress hoa ba

theorem MobilityDatagram.answer_some {dgram : MobilityDatagram BU} {hoa : Ipv6Addr} {ba : BA}
    {reply : BADatagram} (answers : dgram.answer hoa ba = some reply) :
    reply.srcAddress = dgram.destAddress ∧ reply.ba = ba := by
  unfold MobilityDatagram.answer sendBA at answers
  split at answers
  · cases answers
  · cases answers
    exact ⟨rfl, rfl⟩

namespace MIPv6MobilityState

/-- The home address that `preprocessBU` computes -/
def hoa (dgram : MobilityDatagram BU) : Ipv6Addr := dgram.homeAddressOpt.getD dgram.srcAddress

def coa (dgram : MobilityDatagram BU) : Ipv6Addr :=
  dgram.encapsulatedMsg.acoa.getD dgram.srcAddress

def preprocessBU (bc : BindingCache) (dgram : MobilityDatagram BU) : Exec (Bool × Option BADatagram) :=
  let bu := dgram.encapsulatedMsg
  let hoa := hoa dgram
  let bce := bc.findBinding hoa
  let reject (status : BAStatus) (bce : BcEntry) :=
    (false, dgram.answer hoa ⟨status, bce.seqNo.setWidth 16, BitVec.ofNat 16 bce.expires⟩)
  if hoa.isMulticast then .ok (false, none)
  else if hoa.scope = .none ∨ hoa.scope = .node ∨ hoa.scope = .link then .ok (false, none)
  else
    match bce.filter fun bce => lessThanEqualsModulo (bu.sequence.setWidth 32) bce.seqNo 16 with
    | some bce => .ok (reject .seqOutOfWindow bce)
    | none =>
        match bce.filter fun bce => bce.isHomeReg ≠ bu.homereg with
        | some bce => .ok (reject .regTypeChangeDis bce)
        | none =>
            if bu.homereg ∧ dgram.homeAddressOpt = none then .ok (false, none)
            else do
              Exec.assert (dgram.timestamp ≠ 0)
              return (true, none)

/-- `registerBCE` stores the source address of the datagram. -/
def registerBCE (bc : BindingCache) (bu : BU) (hoa : Ipv6Addr) (dgram : MobilityDatagram BU) :
    BindingCache :=
  let bce := (bc.findBinding hoa).getD
    { homeAddr := hoa, careOfAddr := .unspecified, expires := 0, seqNo := 0, isHomeReg := bu.homereg }
  bc.insert hoa
    ({ bce with careOfAddr := dgram.srcAddress, expires := bu.expires.toNat }.setSeqNo
      (bu.sequence.setWidth 32))

def deregisterBCE (bc : BindingCache) (hoa : Ipv6Addr) : Bool × BindingCache := bc.removeBinding hoa

variable {bc : BindingCache} {dgram : MobilityDatagram BU} {bu : BU} {home other : Ipv6Addr}
  {bce : BcEntry} {valid : Bool} {reply : Option BADatagram}

def registered (bc : BindingCache) (bu : BU) (hoa : Ipv6Addr) (dgram : MobilityDatagram BU) :
    BcEntry where
  homeAddr := ((bc.findBinding hoa).map (·.homeAddr)).getD hoa
  careOfAddr := dgram.srcAddress
  expires := bu.expires.toNat
  seqNo := bu.sequence.setWidth 32
  isHomeReg := ((bc.findBinding hoa).map (·.isHomeReg)).getD bu.homereg

theorem setSeqNo_short (seq : BitVec 16) :
    bce.setSeqNo (seq.setWidth 32) = { bce with seqNo := seq.setWidth 32 } := by
  have short : ¬ seq.setWidth 32 > (2 ^ 16 - 1 : BitVec 32) := by
    have bound := seq.isLt
    rw [gt_iff_lt, BitVec.lt_def, BitVec.toNat_setWidth_of_le (by decide)]
    change ¬ 65535 < seq.toNat
    omega
  unfold BcEntry.setSeqNo
  rw [if_neg short]

theorem registerBCE_eq : registerBCE bc bu home dgram = bc.insert home (registered bc bu home dgram) := by
  unfold registerBCE registered
  dsimp only
  rw [setSeqNo_short]
  cases bc.findBinding home <;> rfl

theorem findBinding_registerBCE : (registerBCE bc bu home dgram).findBinding other =
    if home = other then some (registered bc bu home dgram) else bc.findBinding other := by
  rw [registerBCE_eq]
  exact BindingCache.findBinding_insert

theorem registered_seqNo : (registered bc bu home dgram).seqNo.toNat = bu.sequence.toNat :=
  BitVec.toNat_setWidth_of_le (by decide)

/-- A home address that `preprocessBU` accepts -/
def Routable (hoa : Ipv6Addr) : Prop :=
  hoa.isMulticast = false ∧ ¬ (hoa.scope = .none ∨ hoa.scope = .node ∨ hoa.scope = .link)

instance routableDecidable (hoa : Ipv6Addr) : Decidable (Routable hoa) := instDecidableAnd

/-- What the checks of `preprocessBU` say of a Binding Update that passes them. -/
structure Valid (bc : BindingCache) (dgram : MobilityDatagram BU) : Prop where
  routable : Routable (hoa dgram)
  newer : ∀ bce, bc.findBinding (hoa dgram) = some bce →
    lessThanEqualsModulo (dgram.encapsulatedMsg.sequence.setWidth 32) bce.seqNo 16 = false
  sameType : ∀ bce, bc.findBinding (hoa dgram) = some bce →
    bce.isHomeReg = dgram.encapsulatedMsg.homereg
  homeOpt : dgram.encapsulatedMsg.homereg = true → dgram.homeAddressOpt ≠ none

theorem preprocessBU_cases (checks : preprocessBU bc dgram = .ok (valid, reply)) :
    (valid = true ∧ reply = none ∧ Valid bc dgram) ∨
      valid = false ∧ (reply = none ∨ ∃ bce, bc.findBinding (hoa dgram) = some bce ∧
        Routable (hoa dgram) ∧ (lessThanEqualsModulo (dgram.encapsulatedMsg.sequence.setWidth 32) bce.seqNo 16 = true ∧
            reply = dgram.answer (hoa dgram) ⟨.seqOutOfWindow, bce.seqNo.setWidth 16, BitVec.ofNat 16 bce.expires⟩ ∨
          bce.isHomeReg ≠ dgram.encapsulatedMsg.homereg ∧ reply = dgram.answer (hoa dgram)
              ⟨.regTypeChangeDis, bce.seqNo.setWidth 16, BitVec.ofNat 16 bce.expires⟩)) := by
  unfold preprocessBU at checks
  dsimp only at checks
  split at checks
  · cases checks
    exact Or.inr ⟨rfl, Or.inl rfl⟩
  rename_i unicast
  split at checks
  · cases checks
    exact Or.inr ⟨rfl, Or.inl rfl⟩
  rename_i routable
  split at checks
  · rename_i bce stale
    obtain ⟨found, old⟩ := Option.filter_eq_some_iff.mp stale
    cases checks
    exact Or.inr ⟨rfl, Or.inr ⟨bce, found, ⟨eq_false_of_ne_true unicast, routable⟩, Or.inl ⟨old, rfl⟩⟩⟩
  rename_i newer
  split at checks
  · rename_i bce changed
    obtain ⟨found, differs⟩ := Option.filter_eq_some_iff.mp changed
    cases checks
    exact Or.inr ⟨rfl, Or.inr ⟨bce, found, ⟨eq_false_of_ne_true unicast, routable⟩,
      Or.inr ⟨of_decide_eq_true differs, rfl⟩⟩⟩
  rename_i sameType
  split at checks
  · cases checks
    exact Or.inr ⟨rfl, Or.inl rfl⟩
  rename_i homeOpt
  obtain ⟨_, -, rest⟩ := bind_eq_ok.mp checks
  cases rest
  refine Or.inl ⟨rfl, rfl, ⟨eq_false_of_ne_true unicast, routable⟩, ?_, ?_, ?_⟩
  · intro bce found
    exact eq_false_of_ne_true (Option.filter_eq_none_iff.mp newer bce found)
  · intro bce found
    have same := Option.filter_eq_none_iff.mp sameType bce found
    exact Decidable.of_not_not fun differs => same (decide_eq_true differs)
  · exact fun home absent => homeOpt ⟨home, absent⟩

theorem lessThanEqualsModulo_short {seq : BitVec 16} (short : bce.seqNo.toNat < 2 ^ 16) :
    lessThanEqualsModulo (seq.setWidth 32) bce.seqNo 16 = true ↔
      seq.toNat ≤ bce.seqNo.toNat ∨ bce.seqNo.toNat + 2 ^ 15 ≤ seq.toNat := by
  rw [lessThanEqualsModulo_iff short, BitVec.toNat_setWidth_of_le (by decide)]

theorem preprocessBU_valid (passes : Valid bc dgram) (stamped : dgram.timestamp ≠ 0) :
    preprocessBU bc dgram = .ok (true, none) := by
  have newer : (bc.findBinding (hoa dgram)).filter (fun bce =>
      lessThanEqualsModulo (dgram.encapsulatedMsg.sequence.setWidth 32) bce.seqNo 16) = none :=
    Option.filter_eq_none_iff.mpr fun bce found => ne_true_of_eq_false (passes.newer bce found)
  have sameType : (bc.findBinding (hoa dgram)).filter (fun bce =>
      bce.isHomeReg ≠ dgram.encapsulatedMsg.homereg) = none :=
    Option.filter_eq_none_iff.mpr fun bce found differs =>
      of_decide_eq_true differs (passes.sameType bce found)
  unfold preprocessBU
  dsimp only
  rw [if_neg (ne_true_of_eq_false passes.routable.1), if_neg passes.routable.2, newer]
  dsimp only
  rw [sameType]
  dsimp only
  rw [if_neg fun missing => passes.homeOpt missing.1 missing.2, assert_pos stamped]
  rfl

end MIPv6MobilityState

end IPv6Suite
