import IPv6Suite.TCPSegment
import Mathlib.Data.List.Pairwise

namespace IPv6Suite

open Lib SerialNumber

def totalBytes : List CMessage → Nat
  | [] => 0
  | msg :: rest => msg.bytes + totalBytes rest

/-- The messages of a stream, each with the place after its last byte. -/
def endings : Nat → List CMessage → List (Nat × CMessage)
  | _, [] => []
  | offset, msg :: rest => (offset + msg.bytes, msg) :: endings (offset + msg.bytes) rest

/-- The messages whose last byte lies from `lo` up to `hi`. -/
def carried (messages : List CMessage) (lo hi : Nat) : List (Nat × CMessage) :=
  (endings 0 messages).filter fun p => lo < p.1 ∧ p.1 ≤ hi

/-- The payload of the messages in a stream that begins at `start`. -/
def toPayload (start : BitVec 32) (p : Nat × CMessage) : TCPPayloadMessage :=
  ⟨place start p.1, p.2⟩

variable {messages : List CMessage} {offset lo mid hi : Nat} {α : Type} {p : α → Bool} {l : List α}

theorem totalBytes_append (messages others : List CMessage) :
    totalBytes (messages ++ others) = totalBytes messages + totalBytes others := by
  induction messages with
  | nil => exact (Nat.zero_add _).symm
  | cons msg rest ih =>
      change msg.bytes + totalBytes (rest ++ others) = msg.bytes + totalBytes rest + totalBytes others
      rw [ih, Nat.add_assoc]

theorem endings_append (offset : Nat) (messages : List CMessage) (msg : CMessage) :
    endings offset (messages ++ [msg]) =
      endings offset messages ++ [(offset + totalBytes (messages ++ [msg]), msg)] := by
  induction messages generalizing offset with
  | nil => rfl
  | cons first rest ih =>
      change _ :: endings _ (rest ++ [msg]) = _ :: (endings _ rest ++ _)
      rw [ih, Nat.add_assoc]
      rfl

theorem endings_bounds (nonempty : ∀ msg ∈ messages, 0 < msg.bytes) :
    ∀ p ∈ endings offset messages, offset < p.1 ∧ p.1 ≤ offset + totalBytes messages := by
  induction messages generalizing offset with
  | nil => exact fun p inside => absurd inside List.not_mem_nil
  | cons first rest ih =>
      intro p inside
      have positive := nonempty first List.mem_cons_self
      have total : totalBytes (first :: rest) = first.bytes + totalBytes rest := rfl
      rcases List.mem_cons.mp inside with rfl | later
      · dsimp only
        omega
      · have bounds := ih (fun msg member => nonempty msg (List.mem_cons_of_mem first member)) p later
        omega

theorem endings_ordered (nonempty : ∀ msg ∈ messages, 0 < msg.bytes) :
    (endings offset messages).Pairwise fun p q => p.1 < q.1 := by
  induction messages generalizing offset with
  | nil => exact List.Pairwise.nil
  | cons first rest ih =>
      have others := fun msg member => nonempty msg (List.mem_cons_of_mem first member)
      exact List.pairwise_cons.mpr ⟨fun p inside => (endings_bounds others p inside).1, ih others⟩

theorem endings_unique (nonempty : ∀ msg ∈ messages, 0 < msg.bytes) {e : Nat} {msg msg' : CMessage}
    (first : (e, msg) ∈ endings offset messages) (second : (e, msg') ∈ endings offset messages) : msg = msg' := by
  by_contra apart
  have distinct : (e, msg) ≠ (e, msg') := fun same => apart (congrArg Prod.snd same)
  have ordered : (endings offset messages).Pairwise fun p q => p.1 ≠ q.1 :=
    (endings_ordered nonempty).imp Nat.ne_of_lt
  have symmetric : Std.Symm fun p q : Nat × CMessage => p.1 ≠ q.1 := ⟨fun _ _ other => other.symm⟩
  exact ordered.forall first second distinct rfl

theorem takeWhile_eq_filter (stays : l.Pairwise fun a b => p b = true → p a = true) :
    l.takeWhile p = l.filter p := by
  induction l with
  | nil => rfl
  | cons a rest ih =>
      obtain ⟨first, others⟩ := List.pairwise_cons.mp stays
      by_cases holds : p a = true
      · rw [List.takeWhile_cons_of_pos holds, List.filter_cons_of_pos holds, ih others]
      · rw [List.takeWhile_cons_of_neg holds, List.filter_cons_of_neg holds, eq_comm]
        exact List.filter_eq_nil_iff.mpr fun b later found => holds (first b later found)

theorem dropWhile_eq_filter (stays : l.Pairwise fun a b => p b = true → p a = true) :
    l.dropWhile p = l.filter fun a => !p a := by
  induction l with
  | nil => rfl
  | cons a rest ih =>
      obtain ⟨first, others⟩ := List.pairwise_cons.mp stays
      by_cases holds : p a = true
      · rw [List.dropWhile_cons_of_pos holds, List.filter_cons_of_neg (by simp [holds]), ih others]
      · rw [List.dropWhile_cons_of_neg holds, List.filter_cons_of_pos (by simp [holds])]
        congr 1
        exact (List.filter_eq_self.mpr fun b later => by
          simpa using fun found => holds (first b later found)).symm

/-- Two ranges that follow each other carry what both together carry. -/
theorem carried_append (nonempty : ∀ msg ∈ messages, 0 < msg.bytes) (first : lo ≤ mid) (second : mid ≤ hi) :
    carried messages lo mid ++ carried messages mid hi = carried messages lo hi := by
  have ordered : (endings 0 messages).Pairwise fun p q => p.1 < q.1 := endings_ordered nonempty
  unfold carried
  revert ordered
  generalize endings 0 messages = l
  intro ordered
  induction l with
  | nil => rfl
  | cons p rest ih =>
      obtain ⟨before, others⟩ := List.pairwise_cons.mp ordered
      by_cases early : p.1 ≤ mid
      · rw [List.filter_cons_of_neg (l := rest) (p := fun p => mid < p.1 ∧ p.1 ≤ hi) (by simp; omega)]
        by_cases inside : lo < p.1
        · rw [List.filter_cons_of_pos (by simp; omega), List.filter_cons_of_pos (by simp; omega),
            List.cons_append, ih others]
        · rw [List.filter_cons_of_neg (by simp; omega), List.filter_cons_of_neg (by simp; omega),
            ih others]
      · have none : (p :: rest).filter (fun p => lo < p.1 ∧ p.1 ≤ mid) = [] := by
          refine List.filter_eq_nil_iff.mpr fun q inside => ?_
          have after : p.1 ≤ q.1 := by
            rcases List.mem_cons.mp inside with rfl | later
            · exact Nat.le_refl _
            · exact Nat.le_of_lt (before q later)
          simp only [decide_eq_true_eq]
          omega
        rw [none, List.nil_append]
        refine List.filter_congr fun q inside => ?_
        have after : p.1 ≤ q.1 := by
          rcases List.mem_cons.mp inside with rfl | later
          · exact Nat.le_refl _
          · exact Nat.le_of_lt (before q later)
        simp only [decide_eq_decide]
        omega

theorem carried_bounds : ∀ p ∈ carried messages lo hi, lo < p.1 ∧ p.1 ≤ hi :=
  fun _ inside => of_decide_eq_true (List.mem_filter.mp inside).2

theorem carried_ordered (nonempty : ∀ msg ∈ messages, 0 < msg.bytes) :
    (carried messages lo hi).Pairwise fun p q => p.1 < q.1 :=
  (endings_ordered nonempty).filter _

theorem carried_filter_above (later : lo ≤ mid) :
    (carried messages lo hi).filter (fun p => !decide (p.1 ≤ mid)) = carried messages mid hi := by
  unfold carried
  rw [List.filter_filter]
  refine List.filter_congr fun p _ => ?_
  rw [Bool.eq_iff_iff]
  simp only [Bool.and_eq_true, Bool.not_eq_true', decide_eq_true_eq, decide_eq_false_iff_not]
  omega

theorem carried_filter_below (earlier : mid ≤ hi) :
    (carried messages lo hi).filter (fun p => decide (p.1 ≤ mid)) = carried messages lo mid := by
  unfold carried
  rw [List.filter_filter]
  refine List.filter_congr fun p _ => ?_
  rw [Bool.eq_iff_iff]
  simp only [Bool.and_eq_true, decide_eq_true_eq]
  omega

section Scan

variable (start : BitVec 32) {ends : List (Nat × CMessage)} (test : BitVec 32 → Bool)
variable (below : Nat → Bool) (ordered : ends.Pairwise fun p q => p.1 < q.1)
variable (same : ∀ p ∈ ends, test (place start p.1) = below p.1)
variable (closed : ∀ e f, e < f → below f = true → below e = true)

include ordered same closed

theorem takeWhile_payload : (ends.map (toPayload start)).takeWhile (fun i => test i.endSequenceNo) =
      (ends.filter fun p => below p.1).map (toPayload start) := by
  have stays : ends.Pairwise fun p q => below q.1 = true → below p.1 = true :=
    ordered.imp fun less => closed _ _ less
  rw [List.takeWhile_map, ← takeWhile_eq_filter stays]
  congr 1
  clear stays ordered
  induction ends with
  | nil => rfl
  | cons p rest ih =>
      have agree : test (toPayload start p).endSequenceNo = below p.1 := same p List.mem_cons_self
      have later := ih fun q inside => same q (List.mem_cons_of_mem p inside)
      rw [List.takeWhile_cons, List.takeWhile_cons, Function.comp_apply, agree, later]

theorem dropWhile_payload : (ends.map (toPayload start)).dropWhile (fun i => test i.endSequenceNo) =
      (ends.filter fun p => !below p.1).map (toPayload start) := by
  have stays : ends.Pairwise fun p q => below q.1 = true → below p.1 = true :=
    ordered.imp fun less => closed _ _ less
  rw [List.dropWhile_map, ← dropWhile_eq_filter stays]
  congr 1
  clear stays ordered
  induction ends with
  | nil => rfl
  | cons p rest ih =>
      have agree : test (toPayload start p).endSequenceNo = below p.1 := same p List.mem_cons_self
      have later := ih fun q inside => same q (List.mem_cons_of_mem p inside)
      rw [List.dropWhile_cons, List.dropWhile_cons, Function.comp_apply, agree, later]

end Scan

end IPv6Suite
