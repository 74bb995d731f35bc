import IPv6Suite.Lib.Partition
import IPv6Suite.TCPSegment
import Mathlib.Algebra.Order.Floor.Ring
import Mathlib.Data.Rat.Floor

namespace IPv6Suite

open Lib

/-- An IPv4 datagram. Like every message it has its length in bits; the length of the header is in
bytes. -/
structure IPDatagram where
  length : Nat
  headerLength : Nat
  srcAddress : BitVec 32
  destAddress : BitVec 32
  timeToLive : Int
  identification : BitVec 32
  moreFragments : Bool
  dontFragment : Bool
  fragmentOffset : Nat
  encapsulatedMsg : Option CMessage
deriving DecidableEq

namespace IPDatagram

/-- `length()/8` -/
def totalLength (datagram : IPDatagram) : Nat := datagram.length / 8

def payload (datagram : IPDatagram) : Nat := datagram.totalLength - datagram.headerLength

def setLength (datagram : IPDatagram) (bytes : Nat) : IPDatagram :=
  { datagram with length := 8 * bytes }

end IPDatagram

inductive ICMPType where
  | destinationUnreachable
  | timeExceeded
deriving DecidableEq

/-- What IP sends: a datagram to the output queue, or an ICMP error about it. -/
inductive IPOutput where
  | queueOut (datagram : IPDatagram)
  | errorMessage (datagram : IPDatagram) (type : ICMPType) (code : Nat)
deriving DecidableEq

namespace IP

def fragmentationErrorCode : Nat := 4

def sendDatagramToOutput (datagram : IPDatagram) : IPOutput :=
  if datagram.timeToLive ≤ 0 then .errorMessage datagram .timeExceeded 0 else .queueOut datagram

/-- `int(ceil((float(payload)/mtu) / (1-float(headerLength)/mtu)))`, in exact arithmetic -/
def noOfFragments (mtu payload headerLength : Nat) : Nat :=
  ⌈((payload : ℚ) / mtu) / (1 - (headerLength : ℚ) / mtu)⌉.toNat

def fragment (mtu noOfFragments : Nat) (datagram : IPDatagram) (i : Nat) : IPDatagram :=
  let fragment :=
    if i ≠ noOfFragments - 1 then { datagram with moreFragments := true }.setLength mtu
    else datagram.setLength
      (datagram.totalLength - (noOfFragments - 1) * (mtu - datagram.headerLength))
  { fragment with fragmentOffset := i * (mtu - datagram.headerLength) }

def fragmentAndSend (mtu : Nat) (datagram : IPDatagram) : List IPOutput :=
  if datagram.totalLength ≤ mtu then [sendDatagramToOutput datagram]
  else
    let n := noOfFragments mtu datagram.payload datagram.headerLength
    if datagram.dontFragment = true ∧ n > 1 then
      [.errorMessage datagram .destinationUnreachable fragmentationErrorCode]
    else (List.range n).map fun i => sendDatagramToOutput (fragment mtu n datagram i)

/-- The next node decrements the hop counter of what it gets. -/
def handlePacketFromNetwork : IPOutput → Option IPDatagram
  | .queueOut datagram => some { datagram with timeToLive := datagram.timeToLive - 1 }
  | .errorMessage .. => none

def hop (mtu : Nat) (datagram : IPDatagram) : List IPDatagram :=
  (fragmentAndSend mtu datagram).filterMap handlePacketFromNetwork

/-- What gets to the end of a path, on which each node sends over a link with an MTU. -/
def travel : (mtus : List Nat) → List IPDatagram → List IPDatagram
  | [], datagrams => datagrams
  | mtu :: mtus, datagrams => travel mtus (datagrams.flatMap (hop mtu))

end IP

namespace IPDatagram

/-- The place of the payload in that of the whole datagram -/
def extent (datagram : IPDatagram) : Extent Nat :=
  ⟨datagram.fragmentOffset, datagram.fragmentOffset + datagram.payload⟩

/-- All but what fragmentation changes, and the hop counter. -/
def exceptFragment (datagram : IPDatagram) : IPDatagram :=
  { datagram with length := 0, timeToLive := 0, moreFragments := false, fragmentOffset := 0 }

def arrive (datagram : IPDatagram) : IPDatagram :=
  { datagram with timeToLive := datagram.timeToLive - 1 }

variable (datagram : IPDatagram)

@[simp] theorem setLength_totalLength (bytes : Nat) :
    (datagram.setLength bytes).totalLength = bytes := Nat.mul_div_cancel_left bytes (by decide)

@[simp] theorem arrive_extent : datagram.arrive.extent = datagram.extent := rfl

@[simp] theorem arrive_payload : datagram.arrive.payload = datagram.payload := rfl

end IPDatagram

namespace IP

variable {mtu n i : Nat} {datagram : IPDatagram}

theorem noOfFragments_eq {payload headerLength : Nat} (room : headerLength < mtu) :
    noOfFragments mtu payload headerLength = ⌈(payload : ℚ) / (mtu - headerLength : ℕ)⌉.toNat := by
  unfold noOfFragments
  have positive : (0 : ℚ) < mtu := by
    exact_mod_cast Nat.lt_of_le_of_lt (Nat.zero_le _) room
  have apart : (mtu : ℚ) - headerLength ≠ 0 := by
    have less : (headerLength : ℚ) < mtu := by exact_mod_cast room
    linarith
  rw [Nat.cast_sub (Nat.le_of_lt room)]
  congr 2
  field_simp

theorem noOfFragments_bounds {payload headerLength : Nat} (room : headerLength < mtu)
    (some : 0 < payload) : ∃ k, noOfFragments mtu payload headerLength = k + 1 ∧
      k * (mtu - headerLength) < payload ∧ payload ≤ k * (mtu - headerLength) + (mtu - headerLength) := by
  rw [noOfFragments_eq room]
  have filled : 0 < mtu - headerLength := Nat.sub_pos_of_lt room
  generalize mtu - headerLength = size at *
  have size' : (0 : ℚ) < size := by exact_mod_cast filled
  have some' : (0 : ℚ) < payload := by exact_mod_cast some
  have positive : 0 < ⌈(payload : ℚ) / size⌉ := Int.ceil_pos.mpr (div_pos some' size')
  obtain ⟨k, count⟩ : ∃ k : ℕ, ⌈(payload : ℚ) / size⌉ = k + 1 :=
    ⟨(⌈(payload : ℚ) / size⌉ - 1).toNat, by omega⟩
  obtain ⟨above, below⟩ := Int.ceil_eq_iff.mp count
  refine ⟨k, by omega, ?_, ?_⟩
  · have less : (k : ℚ) * size < payload := by
      rw [← lt_div_iff₀ size']
      push_cast at above
      linarith
    exact_mod_cast less
  · have le : (payload : ℚ) ≤ (k + 1) * size := by
      rw [← div_le_iff₀ size']
      push_cast at below
      exact below
    rw [← Nat.succ_mul]
    exact_mod_cast le

theorem fragment_exceptFragment : (fragment mtu n datagram i).exceptFragment = datagram.exceptFragment := by
  unfold fragment
  dsimp only
  split <;> rfl

theorem fragment_timeToLive : (fragment mtu n datagram i).timeToLive = datagram.timeToLive := by
  unfold fragment
  dsimp only
  split <;> rfl

theorem fragment_full (other : i ≠ n - 1) :
    fragment mtu n datagram i = { datagram with
      length := 8 * mtu
      moreFragments := true
      fragmentOffset := i * (mtu - datagram.headerLength) } := by
  unfold fragment
  rw [if_pos other]
  rfl

theorem fragment_last : fragment mtu n datagram (n - 1) = { datagram with
    length := 8 * (datagram.totalLength - (n - 1) * (mtu - datagram.headerLength))
    fragmentOffset := (n - 1) * (mtu - datagram.headerLength) } := by
  unfold fragment
  rw [if_neg (not_not_intro rfl)]
  rfl

theorem hop_expired (expired : datagram.timeToLive ≤ 0) : hop mtu datagram = [] := by
  have dropped {datagram : IPDatagram} (expired : datagram.timeToLive ≤ 0) :
      handlePacketFromNetwork (sendDatagramToOutput datagram) = none := by
    unfold sendDatagramToOutput
    rw [if_pos expired]
    rfl
  unfold hop fragmentAndSend
  refine List.filterMap_eq_nil_iff.mpr fun output mem => ?_
  split at mem
  · rw [List.mem_singleton.mp mem]
    exact dropped expired
  · dsimp only at mem
    split at mem
    · rw [List.mem_singleton.mp mem]
      rfl
    · obtain ⟨i, -, rfl⟩ := List.mem_map.mp mem
      exact dropped (fragment_timeToLive.trans_le expired)

theorem handle_sent (alive : 0 < datagram.timeToLive) :
    handlePacketFromNetwork (sendDatagramToOutput datagram) = some datagram.arrive := by
  unfold sendDatagramToOutput
  rw [if_neg (by omega)]
  rfl

theorem hop_fits (alive : 0 < datagram.timeToLive) (fits : datagram.totalLength ≤ mtu) :
    hop mtu datagram = [datagram.arrive] := by
  unfold hop fragmentAndSend
  rw [if_pos fits, List.filterMap_cons, handle_sent alive]
  rfl

theorem payload_gt (exceeds : mtu < datagram.totalLength) (room : datagram.headerLength < mtu) :
    mtu - datagram.headerLength < datagram.payload := by
  unfold IPDatagram.payload
  omega

theorem hop_fragments (alive : 0 < datagram.timeToLive) (exceeds : mtu < datagram.totalLength)
    (allowed : datagram.dontFragment = false) :
    hop mtu datagram = (List.range (noOfFragments mtu datagram.payload datagram.headerLength)).map
      fun i => (fragment mtu (noOfFragments mtu datagram.payload datagram.headerLength) datagram i).arrive := by
  unfold hop fragmentAndSend
  dsimp only
  rw [if_neg (by omega), allowed, if_neg (fun both => Bool.noConfusion both.1),
    List.filterMap_map, ← List.filterMap_eq_map]
  refine List.filterMap_congr fun i _ => ?_
  exact handle_sent (fragment_timeToLive.symm ▸ alive)

theorem hop_forbidden (exceeds : mtu < datagram.totalLength) (room : datagram.headerLength < mtu)
    (forbidden : datagram.dontFragment = true) : hop mtu datagram = [] := by
  have larger := payload_gt exceeds room
  obtain ⟨k, count, -, le⟩ := noOfFragments_bounds room (Nat.lt_of_le_of_lt (Nat.zero_le _) larger)
  have several : k ≠ 0 := by
    rintro rfl
    omega
  unfold hop fragmentAndSend
  dsimp only
  rw [if_neg (by omega), if_pos ⟨forbidden, by omega⟩]
  rfl

/-- The fragments of a datagram: all but the last are full and more follow after them. -/
structure Divides (size : Nat) (datagram : IPDatagram) (k i : Nat) (fragment : IPDatagram) : Prop where
  extent : fragment.extent = ⟨i * size, if i = k then datagram.payload else i * size + size⟩
  moreFragments : fragment.moreFragments = if i = k then datagram.moreFragments else true
  exceptFragment : fragment.exceptFragment = datagram.exceptFragment
  timeToLive : fragment.timeToLive = datagram.timeToLive - 1

theorem fragment_divides {k : Nat} (less : k * (mtu - datagram.headerLength) < datagram.payload) :
    Divides (mtu - datagram.headerLength) datagram k i (fragment mtu (k + 1) datagram i).arrive := by
  have ttl : (fragment mtu (k + 1) datagram i).arrive.timeToLive = datagram.timeToLive - 1 :=
    congrArg (· - 1) fragment_timeToLive
  by_cases last : i = k
  · subst last
    have fields := @fragment_last mtu (i + 1) datagram
    rw [Nat.add_sub_cancel] at fields
    refine ⟨?_, ?_, fragment_exceptFragment, ttl⟩
    · rw [IPDatagram.arrive_extent, if_pos rfl, fields]
      unfold IPDatagram.extent IPDatagram.payload at *
      dsimp only
      congr 1
      change _ + ((8 * _) / 8 - _) = _
      rw [Nat.mul_div_cancel_left _ (by decide)]
      omega
    · rw [if_pos rfl]
      exact (congrArg IPDatagram.moreFragments fields :)
  · have fields := @fragment_full mtu (k + 1) i datagram last
    refine ⟨?_, ?_, fragment_exceptFragment, ttl⟩
    · rw [IPDatagram.arrive_extent, if_neg last, fields]
      unfold IPDatagram.extent IPDatagram.payload
      dsimp only
      congr 2
      change (8 * mtu) / 8 - _ = _
      rw [Nat.mul_div_cancel_left _ (by decide)]
    · rw [if_neg last]
      exact (congrArg IPDatagram.moreFragments fields :)

theorem hop_divides (alive : 0 < datagram.timeToLive) (exceeds : mtu < datagram.totalLength)
    (allowed : datagram.dontFragment = false) (room : datagram.headerLength < mtu) :
    ∃ k fragments, hop mtu datagram = (List.range (k + 1)).map fragments ∧ 0 < k ∧
      k * (mtu - datagram.headerLength) < datagram.payload ∧
      datagram.payload ≤ k * (mtu - datagram.headerLength) + (mtu - datagram.headerLength) ∧
      ∀ i, Divides (mtu - datagram.headerLength) datagram k i (fragments i) := by
  have larger := payload_gt exceeds room
  obtain ⟨k, count, less, le⟩ := noOfFragments_bounds room (Nat.lt_of_le_of_lt (Nat.zero_le _) larger)
  have several : 0 < k := by
    rcases Nat.eq_zero_or_pos k with rfl | several
    · omega
    · exact several
  have divided := hop_fragments alive exceeds allowed
  rw [count] at divided
  exact ⟨k, _, divided, several, less, le, fun i => fragment_divides less⟩

theorem hop_partitions (alive : 0 < datagram.timeToLive) (exceeds : mtu < datagram.totalLength)
    (allowed : datagram.dontFragment = false) (room : datagram.headerLength < mtu) :
    Extent.Partitions ((hop mtu datagram).map IPDatagram.extent) 0 datagram.payload := by
  obtain ⟨k, fragments, divided, -, less, -, divides⟩ := hop_divides alive exceeds allowed room
  have size : 0 < mtu - datagram.headerLength := Nat.sub_pos_of_lt room
  have last : (fragments k).extent = ⟨k * (mtu - datagram.headerLength), datagram.payload⟩ := by
    rw [(divides k).extent, if_pos rfl]
  have full : (List.range k).map (fun i => (fragments i).extent) = (List.range k).map fun i =>
      ⟨i * (mtu - datagram.headerLength),
        i * (mtu - datagram.headerLength) + (mtu - datagram.headerLength)⟩ := by
    refine List.map_congr_left fun i mem => ?_
    rw [(divides i).extent, if_neg (Nat.ne_of_lt (List.mem_range.mp mem))]
  have parts := (Extent.partitions_chunks size k).append (.singleton less) (Nat.zero_le _)
    (Nat.le_of_lt less)
  rw [divided, List.map_map, List.range_succ, List.map_append]
  change Extent.Partitions ((List.range k).map (fun i => (fragments i).extent) ++
    [(fragments k).extent]) 0 datagram.payload
  rw [full, last]
  exact parts

theorem fragmentAndSend_le (room : datagram.headerLength < mtu) {sent : IPDatagram}
    (mem : .queueOut sent ∈ fragmentAndSend mtu datagram) : sent.totalLength ≤ mtu := by
  have same {datagram sent : IPDatagram}
      (queued : IPOutput.queueOut sent = sendDatagramToOutput datagram) : sent = datagram := by
    unfold sendDatagramToOutput at queued
    split at queued
    · cases queued
    · exact IPOutput.queueOut.inj queued
  unfold fragmentAndSend at mem
  split at mem
  · rename_i fits
    rw [same (List.mem_singleton.mp mem)]
    exact fits
  · rename_i exceeds
    dsimp only at mem
    split at mem
    · cases List.mem_singleton.mp mem
    · obtain ⟨i, -, queued⟩ := List.mem_map.mp mem
      have larger := payload_gt (Nat.not_le.mp exceeds) room
      obtain ⟨k, count, less, le⟩ :=
        noOfFragments_bounds room (Nat.lt_of_le_of_lt (Nat.zero_le _) larger)
      rw [same queued.symm, count]
      by_cases last : i = k
      · subst last
        have fields := @fragment_last mtu (i + 1) datagram
        rw [Nat.add_sub_cancel] at fields
        rw [fields]
        change (8 * _) / 8 ≤ mtu
        rw [Nat.mul_div_cancel_left _ (by decide)]
        unfold IPDatagram.payload at le
        omega
      · rw [fragment_full (n := k + 1) last]
        exact Nat.le_of_eq (Nat.mul_div_cancel_left mtu (by decide))

theorem hop_timeToLive {sent : IPDatagram} (mem : sent ∈ hop mtu datagram) :
    sent.timeToLive = datagram.timeToLive - 1 := by
  have arrives {datagram : IPDatagram}
      (sends : handlePacketFromNetwork (sendDatagramToOutput datagram) = some sent) :
      sent.timeToLive = datagram.timeToLive - 1 := by
    unfold sendDatagramToOutput at sends
    split at sends
    · cases sends
    · cases sends
      rfl
  obtain ⟨output, inside, sends⟩ := List.mem_filterMap.mp mem
  unfold fragmentAndSend at inside
  split at inside
  · rw [List.mem_singleton.mp inside] at sends
    exact arrives sends
  · dsimp only at inside
    split at inside
    · rw [List.mem_singleton.mp inside] at sends
      cases sends
    · obtain ⟨i, -, rfl⟩ := List.mem_map.mp inside
      exact (arrives sends).trans (congrArg (· - 1) fragment_timeToLive)

@[simp] theorem travel_nil (mtus : List Nat) : travel mtus [] = [] := by
  induction mtus with
  | nil => rfl
  | cons mtu mtus ih => exact ih

/-- Nothing gets farther than the hop counter allows. -/
theorem travel_expired {mtus : List Nat} {datagrams : List IPDatagram} {ttl : Int}
    (least : ∀ datagram ∈ datagrams, datagram.timeToLive ≤ ttl) (expired : ttl.toNat < mtus.length) :
    travel mtus datagrams = [] := by
  induction mtus generalizing ttl datagrams with
  | nil => exact absurd expired (Nat.not_lt_zero _)
  | cons mtu mtus ih =>
      rw [List.length_cons] at expired
      unfold travel
      by_cases zero : ttl ≤ 0
      · have none : datagrams.flatMap (hop mtu) = [] := by
          rw [List.flatMap_eq_nil_iff]
          intro datagram mem
          exact hop_expired (Int.le_trans (least datagram mem) zero)
        rw [none, travel_nil]
      · refine @ih _ (ttl - 1) (fun sent mem => ?_) (by omega)
        obtain ⟨datagram, inside, sends⟩ := List.mem_flatMap.mp mem
        have le := least datagram inside
        rw [hop_timeToLive sends]
        omega

theorem travel_fits {mtus : List Nat} (alive : mtus.length ≤ datagram.timeToLive.toNat)
    (fits : ∀ mtu ∈ mtus, datagram.totalLength ≤ mtu) : travel mtus [datagram] =
      [{ datagram with timeToLive := datagram.timeToLive - mtus.length }] := by
  induction mtus generalizing datagram with
  | nil =>
      rw [List.length_nil, Int.natCast_zero, Int.sub_zero]
      rfl
  | cons mtu mtus ih =>
      rw [List.length_cons] at alive ⊢
      unfold travel
      rw [List.flatMap_singleton, hop_fits (by omega) (fits mtu List.mem_cons_self)]
      have left : datagram.arrive.timeToLive - mtus.length =
          datagram.timeToLive - (mtus.length + 1 : ℕ) := by
        change datagram.timeToLive - 1 - mtus.length = _
        omega
      have rest := @ih datagram.arrive (by
        change mtus.length ≤ (datagram.timeToLive - 1).toNat
        omega) fun size mem => fits size (List.mem_cons_of_mem mtu mem)
      rw [rest, left]
      rfl

/-- A datagram that must not be divided does not get over a link that it does not fit on. -/
theorem travel_forbidden {mtus : List Nat} (forbidden : datagram.dontFragment = true)
    (room : ∀ mtu ∈ mtus, datagram.headerLength < mtu)
    (exceeds : ¬ ∀ mtu ∈ mtus, datagram.totalLength ≤ mtu) : travel mtus [datagram] = [] := by
  induction mtus generalizing datagram with
  | nil => exact absurd nofun exceeds
  | cons mtu mtus ih =>
      unfold travel
      rw [List.flatMap_singleton]
      by_cases alive : 0 < datagram.timeToLive
      · by_cases fits : datagram.totalLength ≤ mtu
        · rw [hop_fits alive fits]
          refine ih forbidden (fun size mem => room size (List.mem_cons_of_mem mtu mem)) fun all => ?_
          refine exceeds fun size mem => ?_
          rcases List.mem_cons.mp mem with rfl | mem
          · exact fits
          · exact all size mem
        · rw [hop_forbidden (Nat.not_le.mp fits) (room mtu List.mem_cons_self) forbidden, travel_nil]
      · rw [hop_expired (Int.not_lt.mp alive), travel_nil]

end IP

end IPv6Suite
