import IPv6Suite.IPFragmentation

namespace IPv6Suite

open Lib

namespace IP

variable {mtu : Nat} {datagram : IPDatagram}

/-- Only the datagram at the beginning may be divided again: `first` is its payload, and `others`
the largest one of the others. -/
def FirstDivides : (first others : Nat) → (sizes : List Nat) → Prop
  | _, _, [] => True
  | first, others, size :: sizes =>
      if first ≤ size then FirstDivides first others sizes
      else others ≤ size ∧ FirstDivides size (max others (min (first - size) size)) sizes

/-- The datagrams that a datagram is divided into, on a path on which only the one at the beginning
is divided again. -/
structure Pieces (datagram : IPDatagram) (ttl : Int) (first others : Nat)
    (pieces : List IPDatagram) : Prop where
  same : ∀ piece ∈ pieces, piece.exceptFragment = datagram.exceptFragment
  timeToLive : ∀ piece ∈ pieces, piece.timeToLive = ttl
  more : ∀ piece ∈ pieces, piece.moreFragments = decide (piece.extent.hi ≠ datagram.payload)
  parts : Extent.Partitions (pieces.map IPDatagram.extent) 0 datagram.payload
  atStart : ∀ piece ∈ pieces, piece.fragmentOffset = 0 → piece.payload = first
  later : ∀ piece ∈ pieces, piece.fragmentOffset ≠ 0 → piece.payload ≤ others
  attained : others = 0 ∨ ∃ piece ∈ pieces, piece.fragmentOffset ≠ 0 ∧ piece.payload = others
  ordered : others ≤ first
  positive : 0 < datagram.payload

section

variable {d piece : IPDatagram} {ttl : Int} {first others : Nat} {pieces : List IPDatagram}

theorem Pieces.payload_pos (shape : Pieces d ttl first others pieces) (mem : piece ∈ pieces) :
    0 < piece.payload := by
  have filled : piece.fragmentOffset < piece.fragmentOffset + piece.payload :=
    shape.parts.nonempty _ (List.mem_map_of_mem mem)
  omega

theorem Pieces.headerLength (shape : Pieces d ttl first others pieces) (mem : piece ∈ pieces) :
    piece.headerLength = d.headerLength :=
  (congrArg IPDatagram.headerLength (shape.same piece mem) :)

theorem Pieces.dontFragment (shape : Pieces d ttl first others pieces) (mem : piece ∈ pieces) :
    piece.dontFragment = d.dontFragment :=
  (congrArg IPDatagram.dontFragment (shape.same piece mem) :)

theorem Pieces.exceeds (shape : Pieces d ttl first others pieces) (mem : piece ∈ pieces) :
    mtu < piece.totalLength ↔ mtu - d.headerLength < piece.payload := by
  have header := shape.headerLength mem
  have filled := shape.payload_pos mem
  unfold IPDatagram.payload at *
  omega

theorem Pieces.start (fresh : d.fragmentOffset = 0) (whole : d.moreFragments = false)
    (some : 0 < d.payload) : Pieces d d.timeToLive d.payload 0 [d] := by
  have extent : d.extent = ⟨0, d.payload⟩ := by
    unfold IPDatagram.extent
    rw [fresh, Nat.zero_add]
  have single {p : IPDatagram → Prop} (holds : p d) : ∀ piece ∈ [d], p piece := fun piece mem => by
    rw [List.mem_singleton.mp mem]
    exact holds
  refine ⟨single rfl, single rfl, single ?_, ?_, single fun _ => rfl,
    single fun later => absurd fresh later, Or.inl rfl, Nat.zero_le _, some⟩
  · rw [extent, whole]
    exact (decide_eq_false (not_not_intro rfl)).symm
  · rw [List.map_singleton, extent]
    exact .singleton some

theorem Pieces.exists_start (shape : Pieces d ttl first others pieces) :
    ∃ piece ∈ pieces, piece.fragmentOffset = 0 ∧ piece.payload = first := by
  have once := shape.parts.once 0
  rw [if_pos ⟨Nat.le_refl 0, shape.positive⟩] at once
  obtain ⟨extent, mem, contains⟩ := Extent.exists_of_times_pos (by rw [once]; exact Nat.one_pos)
  obtain ⟨piece, inside, rfl⟩ := List.mem_map.mp mem
  have start : piece.fragmentOffset = 0 := Nat.le_zero.mp contains.1
  exact ⟨piece, inside, start, shape.atStart piece inside start⟩

theorem Pieces.hop_fit (shape : Pieces d ttl first others pieces) (alive : 0 < ttl)
    (fits : ∀ piece ∈ pieces, piece.totalLength ≤ mtu) :
    Pieces d (ttl - 1) first others (pieces.flatMap (hop mtu)) := by
  have arrived : pieces.flatMap (hop mtu) = pieces.map IPDatagram.arrive := by
    rw [List.map_eq_flatMap]
    refine List.flatMap_congr fun piece mem => ?_
    exact hop_fits (shape.timeToLive piece mem ▸ alive) (fits piece mem)
  rw [arrived]
  have each {p : IPDatagram → Prop} (holds : ∀ piece ∈ pieces, p piece.arrive) :
      ∀ piece ∈ pieces.map IPDatagram.arrive, p piece := fun piece mem => by
    obtain ⟨sent, inside, rfl⟩ := List.mem_map.mp mem
    exact holds sent inside
  refine ⟨each shape.same, each fun piece mem => ?_, each shape.more, ?_, each shape.atStart,
    each shape.later, shape.attained.imp_right ?_, shape.ordered, shape.positive⟩
  · exact congrArg (· - 1) (shape.timeToLive piece mem)
  · rw [List.map_map]
    exact shape.parts
  · rintro ⟨piece, mem, later, largest⟩
    exact ⟨piece.arrive, List.mem_map_of_mem mem, later, largest⟩

/-- The largest payload behind the beginning, where `total` is divided into `size` and the rest -/
theorem larger_rest {total size k i : Nat} (less : k * size < total) (le : total ≤ k * size + size)
    (later : i ≠ 0) (inside : i ≤ k) :
    (if i = k then total - i * size else size) ≤ min (total - size) size := by
  obtain ⟨j, rfl⟩ : ∃ j, i = j + 1 := ⟨i - 1, by omega⟩
  have step : j * size + size = (j + 1) * size := (Nat.succ_mul j size).symm
  split
  · rename_i last
    subst last
    omega
  · rename_i other
    have more : (j + 2) * size ≤ k * size := Nat.mul_le_mul_right size (by omega)
    have next : (j + 2) * size = (j + 1) * size + size := Nat.succ_mul (j + 1) size
    omega

variable {size k i : Nat} {fragment : IPDatagram}

theorem Divides.offset (divides : Divides size datagram k i fragment) : fragment.fragmentOffset = i * size :=
  congrArg Extent.lo divides.extent

theorem Divides.payload (divides : Divides size datagram k i fragment) :
    fragment.payload = if i = k then datagram.payload - i * size else size := by
  have offset := divides.offset
  have hi : fragment.fragmentOffset + fragment.payload =
      if i = k then datagram.payload else i * size + size := congrArg Extent.hi divides.extent
  by_cases last : i = k
  · rw [if_pos last] at hi ⊢
    omega
  · rw [if_neg last] at hi ⊢
    omega

/-- A datagram that was sent on as it is, or the `i`-th fragment of the one at the beginning. -/
inductive Sent (mtu first : Nat) (piece : IPDatagram) : IPDatagram → Prop
  | fits (later : piece.fragmentOffset ≠ 0) : Sent mtu first piece piece.arrive
  | fragment {k i : Nat} {fragment : IPDatagram} (start : piece.fragmentOffset = 0)
      (several : 0 < k) (inside : i ≤ k) (less : k * (mtu - piece.headerLength) < first)
      (le : first ≤ k * (mtu - piece.headerLength) + (mtu - piece.headerLength))
      (divides : Divides (mtu - piece.headerLength) piece k i fragment) : Sent mtu first piece fragment

theorem Pieces.hop_cases (shape : Pieces d ttl first others pieces) (alive : 0 < ttl)
    (allowed : d.dontFragment = false) (room : d.headerLength < mtu)
    (divides : mtu - d.headerLength < first) (fit : others ≤ mtu - d.headerLength)
    {sent : IPDatagram} (mem : sent ∈ pieces.flatMap (hop mtu)) : ∃ piece ∈ pieces, Sent mtu first piece sent := by
  obtain ⟨piece, inside, sends⟩ := List.mem_flatMap.mp mem
  refine ⟨piece, inside, ?_⟩
  have alive' : 0 < piece.timeToLive := shape.timeToLive piece inside ▸ alive
  have header := shape.headerLength inside
  by_cases start : piece.fragmentOffset = 0
  · have payload := shape.atStart piece inside start
    have exceeds : mtu < piece.totalLength := (shape.exceeds inside).mpr (payload ▸ divides)
    have allowed' : piece.dontFragment = false := (shape.dontFragment inside).trans allowed
    obtain ⟨k, fragments, divided, several, less, le, each⟩ :=
      hop_divides alive' exceeds allowed' (header ▸ room)
    rw [divided] at sends
    obtain ⟨i, range, rfl⟩ := List.mem_map.mp sends
    rw [payload] at less le
    have inside' : i ≤ k := Nat.le_of_lt_succ (List.mem_range.mp range)
    exact .fragment start several inside' less le (each i)
  · have fits : piece.totalLength ≤ mtu := by
      rw [← Nat.not_lt, shape.exceeds inside]
      have le := shape.later piece inside start
      omega
    rw [hop_fits alive' fits, List.mem_singleton] at sends
    rw [sends]
    exact .fits start

/-- Where only the piece at the beginning does not fit, the rest of it comes behind. -/
theorem Pieces.hop_divide (shape : Pieces d ttl first others pieces) (alive : 0 < ttl)
    (allowed : d.dontFragment = false) (room : d.headerLength < mtu)
    (divides : mtu - d.headerLength < first) (fit : others ≤ mtu - d.headerLength) :
    Pieces d (ttl - 1) (mtu - d.headerLength)
      (max others (min (first - (mtu - d.headerLength)) (mtu - d.headerLength))) (pieces.flatMap (hop mtu)) := by
  have each {p : IPDatagram → Prop} (holds : ∀ piece ∈ pieces, ∀ sent, Sent mtu first piece sent →
      p sent) : ∀ sent ∈ pieces.flatMap (hop mtu), p sent := fun sent mem => by
    obtain ⟨piece, inside, sends⟩ := shape.hop_cases alive allowed room divides fit mem
    exact holds piece inside sent sends
  refine ⟨each ?_, each ?_, each ?_, ?_, each ?_, each ?_, ?_, ?_, shape.positive⟩
  · intro piece inside sent sends
    cases sends with
    | fits => exact shape.same piece inside
    | fragment _ _ _ _ _ divides => exact divides.exceptFragment.trans (shape.same piece inside)
  · intro piece inside sent sends
    have ttl := shape.timeToLive piece inside
    cases sends with
    | fits => exact congrArg (· - 1) ttl
    | fragment _ _ _ _ _ divides => exact divides.timeToLive.trans (congrArg (· - 1) ttl)
  · intro piece inside sent sends
    have more := shape.more piece inside
    cases sends with
    | fits => exact more
    | @fragment k i _ start _ inside' less _ divides =>
        have bounds := (shape.parts.bounds (List.mem_map_of_mem inside)).2
        have payload := shape.atStart piece inside start
        have hi : piece.extent.hi = piece.payload := by
          unfold IPDatagram.extent
          rw [start, Nat.zero_add]
        rw [divides.moreFragments, divides.extent]
        by_cases last : i = k
        · rw [if_pos last, if_pos last, more, hi]
        · have full : (i + 1) * (mtu - piece.headerLength) ≤ k * (mtu - piece.headerLength) :=
            Nat.mul_le_mul_right _ (by omega)
          rw [Nat.succ_mul] at full
          rw [if_neg last, if_neg last, eq_comm, decide_eq_true_eq]
          dsimp only
          omega
  · rw [List.map_flatMap]
    refine shape.parts.refine fun piece inside => ?_
    have alive' : 0 < piece.timeToLive := shape.timeToLive piece inside ▸ alive
    by_cases start : piece.fragmentOffset = 0
    · have payload := shape.atStart piece inside start
      have exceeds : mtu < piece.totalLength := (shape.exceeds inside).mpr (payload ▸ divides)
      have allowed' := (shape.dontFragment inside).trans allowed
      have extent : piece.extent = ⟨0, piece.payload⟩ := by
        unfold IPDatagram.extent
        rw [start, Nat.zero_add]
      rw [extent]
      exact hop_partitions alive' exceeds allowed' ((shape.headerLength inside).symm ▸ room)
    · have fits : piece.totalLength ≤ mtu := by
        rw [← Nat.not_lt, shape.exceeds inside]
        have le := shape.later piece inside start
        omega
      rw [hop_fits alive' fits, List.map_singleton]
      exact .singleton (shape.parts.nonempty _ (List.mem_map_of_mem inside))
  · intro piece inside sent sends
    cases sends with
    | fits later => exact fun start => absurd start later
    | @fragment k i _ start several _ _ _ divides =>
        intro zero
        have size : 0 < mtu - piece.headerLength :=
          Nat.sub_pos_of_lt ((shape.headerLength inside).symm ▸ room)
        rw [divides.offset] at zero
        have none : i = 0 := (Nat.mul_eq_zero.mp zero).resolve_right (by omega)
        rw [divides.payload, if_neg (by omega), shape.headerLength inside]
  · intro piece inside sent sends
    cases sends with
    | fits later => exact fun _ => Nat.le_trans (shape.later piece inside later) (Nat.le_max_left _ _)
    | @fragment k i _ start several inside' less le divides =>
        intro nonzero
        rw [divides.offset] at nonzero
        have behind : i ≠ 0 := fun zero => nonzero (by rw [zero, Nat.zero_mul])
        have most := larger_rest less le behind inside'
        rw [divides.payload, shape.atStart piece inside start]
        rw [shape.headerLength inside] at most ⊢
        exact Nat.le_trans most (Nat.le_max_right _ _)
  · right
    by_cases larger : min (first - (mtu - d.headerLength)) (mtu - d.headerLength) ≤ others
    · have size : 0 < mtu - d.headerLength := Nat.sub_pos_of_lt room
      obtain ⟨piece, inside, later, largest⟩ := shape.attained.resolve_left (by omega)
      have alive' : 0 < piece.timeToLive := shape.timeToLive piece inside ▸ alive
      have fits : piece.totalLength ≤ mtu := by
        rw [← Nat.not_lt, shape.exceeds inside]
        omega
      refine ⟨piece.arrive, ?_, later, ?_⟩
      · refine List.mem_flatMap.mpr ⟨piece, inside, ?_⟩
        rw [hop_fits alive' fits]
        exact List.mem_singleton_self _
      · rw [IPDatagram.arrive_payload, Nat.max_eq_left larger, largest]
    · obtain ⟨piece, inside, start, payload⟩ := shape.exists_start
      have alive' : 0 < piece.timeToLive := shape.timeToLive piece inside ▸ alive
      have exceeds : mtu < piece.totalLength := (shape.exceeds inside).mpr (payload ▸ divides)
      have allowed' := (shape.dontFragment inside).trans allowed
      have header := shape.headerLength inside
      obtain ⟨k, fragments, divided, several, less, le, each⟩ :=
        hop_divides alive' exceeds allowed' (header.symm ▸ room)
      rw [payload, header] at less le
      refine ⟨fragments 1, ?_, ?_, ?_⟩
      · refine List.mem_flatMap.mpr ⟨piece, inside, ?_⟩
        rw [divided]
        exact List.mem_map_of_mem (List.mem_range.mpr (by omega))
      · rw [(each 1).offset, Nat.one_mul, header]
        omega
      · rw [(each 1).payload, payload, header, Nat.one_mul, Nat.max_eq_right (by omega)]
        by_cases two : 1 = k
        · subst two
          rw [if_pos rfl]
          omega
        · have double : 2 * (mtu - d.headerLength) ≤ k * (mtu - d.headerLength) :=
            Nat.mul_le_mul_right _ (by omega)
          rw [if_neg two]
          omega
  · omega

variable {mtus : List Nat}

/-- On a path on which only the piece at the beginning is divided again, the datagram stays in
pieces, of which the one at the beginning fits on every link. -/
theorem Pieces.travel (shape : Pieces d ttl first others pieces)
    (alive : mtus.length ≤ ttl) (allowed : d.dontFragment = false) (room : ∀ mtu ∈ mtus, d.headerLength < mtu)
    (divides : FirstDivides first others (mtus.map (· - d.headerLength))) :
    ∃ first' others', Pieces d (ttl - mtus.length) first' others' (travel mtus pieces) ∧
      first' ≤ first ∧ ∀ mtu ∈ mtus, first' ≤ mtu - d.headerLength := by
  induction mtus generalizing ttl first others pieces with
  | nil =>
      refine ⟨first, others, ?_, Nat.le_refl first, nofun⟩
      rw [List.length_nil, Int.natCast_zero, Int.sub_zero]
      exact shape
  | cons mtu mtus ih =>
      unfold travel
      rw [List.length_cons] at alive ⊢
      rw [List.map_cons] at divides
      unfold FirstDivides at divides
      have left : ttl - (mtus.length + 1 : ℕ) = ttl - 1 - mtus.length := by omega
      rw [left]
      have rest (size : Nat) (mem : size ∈ mtus) : d.headerLength < size :=
        room size (List.mem_cons_of_mem mtu mem)
      by_cases fits : first ≤ mtu - d.headerLength
      · rw [if_pos fits] at divides
        have next : Pieces d (ttl - 1) first others (pieces.flatMap (hop mtu)) :=
          shape.hop_fit (by omega) fun piece mem => by
          rw [← Nat.not_lt, shape.exceeds mem]
          by_cases start : piece.fragmentOffset = 0
          · rw [shape.atStart piece mem start]
            omega
          · have le := shape.later piece mem start
            have le' := shape.ordered
            omega
        obtain ⟨first', others', shape', le, each⟩ := ih next (by omega) rest divides
        refine ⟨first', others', shape', le, fun size mem => ?_⟩
        rcases List.mem_cons.mp mem with rfl | mem
        · exact Nat.le_trans le fits
        · exact each size mem
      · rw [if_neg fits] at divides
        have next := @Pieces.hop_divide mtu _ _ _ _ _ shape (by omega) allowed
          (room mtu List.mem_cons_self) (by omega) divides.1
        obtain ⟨first', others', shape', le, each⟩ := ih next (by omega) rest divides.2
        refine ⟨first', others', shape', by omega, fun size mem => ?_⟩
        rcases List.mem_cons.mp mem with rfl | mem
        · exact le
        · exact each size mem

/-- A datagram with a payload that may be divided -/
structure Sendable (headerLength : Nat) (ttl : Int) (datagram : IPDatagram) : Prop where
  header : datagram.headerLength = headerLength
  allowed : datagram.dontFragment = false
  timeToLive : datagram.timeToLive = ttl
  payload : 0 < datagram.payload

variable {headerLength : Nat}

theorem Sendable.hop (sendable : Sendable headerLength ttl datagram) (alive : 0 < ttl)
    (room : headerLength < mtu) : ∀ sent ∈ hop mtu datagram, Sendable headerLength (ttl - 1) sent := by
  intro sent mem
  have alive' : 0 < datagram.timeToLive := sendable.timeToLive ▸ alive
  have less := sendable.timeToLive
  by_cases fits : datagram.totalLength ≤ mtu
  · rw [hop_fits alive' fits, List.mem_singleton] at mem
    rw [mem]
    exact ⟨sendable.header, sendable.allowed, congrArg (· - 1) less, sendable.payload⟩
  · obtain ⟨k, fragments, divided, -, small, -, each⟩ :=
      hop_divides alive' (Nat.not_le.mp fits) sendable.allowed (sendable.header.symm ▸ room)
    rw [divided] at mem
    obtain ⟨i, -, rfl⟩ := List.mem_map.mp mem
    have same := (each i).exceptFragment
    refine ⟨?_, ?_, (each i).timeToLive.trans (congrArg (· - 1) less), ?_⟩
    · exact (congrArg IPDatagram.headerLength same :).trans sendable.header
    · exact (congrArg IPDatagram.dontFragment same :).trans sendable.allowed
    · have header := sendable.header
      rw [(each i).payload]
      split
      · rename_i last
        rw [last]
        omega
      · omega

theorem Sendable.hop_zero (sendable : Sendable headerLength ttl datagram) (alive : 0 < ttl)
    (room : headerLength < mtu) (start : datagram.extent.Contains 0 ∨ mtu < datagram.totalLength) :
    0 < Extent.times ((IP.hop mtu datagram).map IPDatagram.extent) 0 := by
  have alive' : 0 < datagram.timeToLive := sendable.timeToLive ▸ alive
  by_cases fits : datagram.totalLength ≤ mtu
  · rw [hop_fits alive' fits]
    exact Extent.times_pos List.mem_cons_self (start.resolve_right (by omega))
  · have parts := hop_partitions alive' (Nat.not_le.mp fits) sendable.allowed
      (sendable.header.symm ▸ room)
    rw [parts.once, if_pos ⟨Nat.le_refl 0, sendable.payload⟩]
    exact Nat.one_pos

theorem times_travel {datagrams : List IPDatagram}
    (sendable : ∀ datagram ∈ datagrams, Sendable headerLength ttl datagram)
    (alive : mtus.length ≤ ttl) (room : ∀ mtu ∈ mtus, headerLength < mtu) :
    Extent.times (datagrams.map IPDatagram.extent) 0 ≤
      Extent.times ((travel mtus datagrams).map IPDatagram.extent) 0 := by
  induction mtus generalizing ttl datagrams with
  | nil => exact Nat.le_refl _
  | cons mtu mtus ih =>
      rw [List.length_cons] at alive
      have here := room mtu List.mem_cons_self
      unfold travel
      refine Nat.le_trans ?_ (@ih (ttl - 1) _ ?_ (by omega) fun size mem =>
        room size (List.mem_cons_of_mem mtu mem))
      · rw [List.map_flatMap]
        exact Extent.times_flatMap_le fun datagram mem start =>
          (sendable datagram mem).hop_zero (by omega) here (Or.inl start)
      · intro sent mem
        obtain ⟨datagram, inside, sends⟩ := List.mem_flatMap.mp mem
        exact (sendable datagram inside).hop (by omega) here sent sends

theorem Pieces.firstDivides (shape : Pieces d ttl first others pieces)
    (alive : mtus.length ≤ ttl) (allowed : d.dontFragment = false) (room : ∀ mtu ∈ mtus, d.headerLength < mtu)
    (once : Extent.times ((IP.travel mtus pieces).map IPDatagram.extent) 0 ≤ 1) :
    FirstDivides first others (mtus.map (· - d.headerLength)) := by
  induction mtus generalizing ttl first others pieces with
  | nil => exact True.intro
  | cons mtu mtus ih =>
      rw [List.length_cons] at alive
      have here := room mtu List.mem_cons_self
      have rest (size : Nat) (mem : size ∈ mtus) : d.headerLength < size :=
        room size (List.mem_cons_of_mem mtu mem)
      have sendable : ∀ piece ∈ pieces, Sendable d.headerLength ttl piece := fun piece mem =>
        ⟨shape.headerLength mem, (shape.dontFragment mem).trans allowed, shape.timeToLive piece mem,
          shape.payload_pos mem⟩
      unfold IP.travel at once
      rw [List.map_cons]
      unfold FirstDivides
      split
      · rename_i fits
        refine ih (shape.hop_fit (by omega) fun piece mem => ?_) (by omega) rest once
        rw [← Nat.not_lt, shape.exceeds mem]
        by_cases start : piece.fragmentOffset = 0
        · rw [shape.atStart piece mem start]
          omega
        · have le := shape.later piece mem start
          have le' := shape.ordered
          omega
      · rename_i larger
        have fit : others ≤ mtu - d.headerLength := by
          by_contra exceeds
          obtain ⟨piece, inside, later, payload⟩ := shape.attained.resolve_left (by omega)
          have outside : ¬ piece.extent.Contains 0 := fun contains => later (Nat.le_zero.mp contains.1)
          have again := (sendable piece inside).hop_zero (by omega) here
            (Or.inr ((shape.exceeds inside).mpr (by omega)))
          have more := Extent.times_flatMap_lt (fun piece mem start =>
            (sendable piece mem).hop_zero (by omega) here (Or.inl start)) inside outside again
          rw [← List.map_flatMap, shape.parts.once, if_pos ⟨Nat.le_refl 0, shape.positive⟩] at more
          have again : ∀ sent ∈ pieces.flatMap (IP.hop mtu), Sendable d.headerLength (ttl - 1) sent := by
            intro sent mem
            obtain ⟨piece, inside, sends⟩ := List.mem_flatMap.mp mem
            exact (sendable piece inside).hop (by omega) here sent sends
          have kept := times_travel again (by omega) rest
          omega
        exact ⟨fit, ih (shape.hop_divide (by omega) allowed here (by omega) fit) (by omega) rest once⟩

end

end IP

end IPv6Suite
