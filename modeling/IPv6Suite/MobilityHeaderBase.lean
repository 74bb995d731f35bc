import IPv6Suite.Lib.Lists
import IPv6Suite.Lib.Machine
import IPv6Suite.MobilityHeaders

namespace IPv6Suite

open Lib

inductive MIPv6HeaderType where
  | brr
  | hoti
  | coti
  | hot
  | cot
  | bu
  | ba
  | be
deriving DecidableEq

inductive MobilityOptType where
  | pad1
  | padN
  | bra
  | acoa
  | ni
  | auth
deriving DecidableEq

inductive MobilityOptFields where
  | bra (interval : BitVec 16)
  | acoa (acoa : Ipv6Addr)
  | ni (ni : MIPv6OptNI)
  | auth (auth : Ipv6Addr)
deriving DecidableEq

structure MobilityOptionBase where
  fields : MobilityOptFields
  byteLength : BitVec 32
deriving DecidableEq

namespace MobilityOptionBase

/-- An option as it is created; its length can be set later. -/
def create (fields : MobilityOptFields) : MobilityOptionBase where
  fields := fields
  byteLength := match fields with
    | .bra _ => 4
    | .acoa _ => 18
    | .ni _ => 6
    | .auth _ => 14

def kind (op : MobilityOptionBase) : MobilityOptType :=
  match op.fields with
  | .bra _ => .bra
  | .acoa _ => .acoa
  | .ni _ => .ni
  | .auth _ => .auth

end MobilityOptionBase

/-- A mobility message with the fields of its class -/
structure MobilityHeaderBase (α : Type) where
  kind : MIPv6HeaderType
  fields : α
  byteLength : Nat
  mobilityOptions : List MobilityOptionBase
deriving DecidableEq

namespace MobilityHeaderBase

variable {α : Type}

/-- The length that the constructors of a class set -/
def fixedLength : MIPv6HeaderType → Nat
  | .brr => 8
  | .hoti | .coti => 8 + 8
  | .hot | .cot => 8 + 16
  | .bu | .ba => 8 + 4
  | .be => 8 + 16

def create (kind : MIPv6HeaderType) (fields : α) : MobilityHeaderBase α :=
  ⟨kind, fields, fixedLength kind, []⟩

/-- `addOption`, which `BU` and `BA` override to check the kind of the option first -/
def addOption (mhb : MobilityHeaderBase α) (op : MobilityOptionBase) : Exec (MobilityHeaderBase α) := do
  Exec.assert (mhb.kind = .bu → op.kind = .ni ∨ op.kind = .auth ∨ op.kind = .acoa)
  Exec.assert (mhb.kind = .ba → op.kind = .bra ∨ op.kind = .auth)
  Exec.assert (¬ (mhb.kind = .be ∨ mhb.kind = .cot ∨ mhb.kind = .hot ∨ mhb.kind = .coti ∨ mhb.kind = .hoti ∨
    mhb.kind = .brr))
  Exec.assert (mhb.kind = .ba ∧ op.kind = .auth → 0 < op.byteLength)
  Exec.assert (0 < op.byteLength)
  return { mhb with
    mobilityOptions := mhb.mobilityOptions ++ [op]
    byteLength := mhb.byteLength + op.byteLength.toNat }

/-- `operator=`: the base class copies the kind and the length, and the options are added to those that are
there. -/
def assign (mhb other : MobilityHeaderBase α) : Exec (MobilityHeaderBase α) :=
  other.mobilityOptions.foldlM addOption
    { mhb with kind := other.kind, fields := other.fields, byteLength := other.byteLength }

/-- The copy constructor leaves it to the assignment to set the length of the class. -/
def dup (mhb : MobilityHeaderBase α) : Exec (MobilityHeaderBase α) :=
  assign ⟨mhb.kind, mhb.fields, 8, []⟩ mhb

def optionsLength (ops : List MobilityOptionBase) : Nat := (ops.map (·.byteLength.toNat)).sum

/-- What `addOption` asserts for a class of messages -/
structure Accepts (kind : MIPv6HeaderType) (op : MobilityOptionBase) : Prop where
  update : kind = .bu → op.kind = .ni ∨ op.kind = .auth ∨ op.kind = .acoa
  acknowledgement : kind = .ba → op.kind = .bra ∨ op.kind = .auth
  takesOptions : ¬ (kind = .be ∨ kind = .cot ∨ kind = .hot ∨ kind = .coti ∨ kind = .hoti ∨ kind = .brr)
  positive : 0 < op.byteLength

/-- The length is that of the class and of the options. -/
def Measured (mhb : MobilityHeaderBase α) : Prop :=
  mhb.byteLength = fixedLength mhb.kind + optionsLength mhb.mobilityOptions

instance measuredDecidable (mhb : MobilityHeaderBase α) : Decidable mhb.Measured := instDecidableEqNat _ _

variable {mhb mhb' other : MobilityHeaderBase α} {op : MobilityOptionBase} {ops : List MobilityOptionBase}
  {kind : MIPv6HeaderType}

@[simp] theorem optionsLength_nil : optionsLength [] = 0 := rfl

@[simp] theorem optionsLength_cons : optionsLength (op :: ops) = op.byteLength.toNat + optionsLength ops := by
  simp [optionsLength]

@[simp] theorem optionsLength_append (front back : List MobilityOptionBase) :
    optionsLength (front ++ back) = optionsLength front + optionsLength back := by
  simp [optionsLength]

theorem optionsLength_eq_zero (accepted : ∀ op ∈ ops, Accepts kind op) : optionsLength ops = 0 ↔ ops = [] := by
  constructor
  · intro zero
    cases ops with
    | nil => rfl
    | cons op rest =>
        have positive := BitVec.lt_def.mp (accepted op List.mem_cons_self).positive
        rw [optionsLength_cons] at zero
        simp at positive
        omega
  · intro empty
    rw [empty, optionsLength_nil]

theorem addOption_ok (accepts : Accepts mhb.kind op) : mhb.addOption op = .ok { mhb with
    mobilityOptions := mhb.mobilityOptions ++ [op]
    byteLength := mhb.byteLength + op.byteLength.toNat } := by
  unfold addOption
  rw [assert_pos accepts.update, ok_bind, assert_pos accepts.acknowledgement, ok_bind,
    assert_pos accepts.takesOptions, ok_bind, assert_pos fun _ => accepts.positive, ok_bind,
    assert_pos accepts.positive, ok_bind]
  rfl

theorem addOption_cases (adds : mhb.addOption op = .ok mhb') : Accepts mhb.kind op ∧ mhb' = { mhb with
    mobilityOptions := mhb.mobilityOptions ++ [op]
    byteLength := mhb.byteLength + op.byteLength.toNat } := by
  have accepts : Accepts mhb.kind op := by
    unfold addOption at adds
    obtain ⟨_, update, rest⟩ := bind_eq_ok.mp adds
    obtain ⟨_, acknowledgement, rest⟩ := bind_eq_ok.mp rest
    obtain ⟨_, takesOptions, rest⟩ := bind_eq_ok.mp rest
    obtain ⟨_, -, rest⟩ := bind_eq_ok.mp rest
    obtain ⟨_, positive, -⟩ := bind_eq_ok.mp rest
    rw [assert_eq_ok] at update acknowledgement takesOptions positive
    exact ⟨update, acknowledgement, takesOptions, positive⟩
  rw [addOption_ok accepts] at adds
  exact ⟨accepts, (Except.ok.inj adds).symm⟩

theorem addOptions_ok (accepted : ∀ op ∈ ops, Accepts mhb.kind op) : ops.foldlM addOption mhb = .ok { mhb with
    mobilityOptions := mhb.mobilityOptions ++ ops
    byteLength := mhb.byteLength + optionsLength ops } := by
  induction ops generalizing mhb with
  | nil =>
      rw [List.append_nil, optionsLength_nil]
      rfl
  | cons op rest ih =>
      have later : ∀ op ∈ rest, Accepts mhb.kind op := fun op inside => accepted op (List.mem_cons_of_mem _ inside)
      rw [List.foldlM_cons, addOption_ok (accepted op List.mem_cons_self), ok_bind]
      refine (ih ?_).trans ?_
      · exact later
      · simp [Nat.add_assoc]

theorem assign_ok (accepted : ∀ op ∈ other.mobilityOptions, Accepts other.kind op) :
    mhb.assign other = .ok ⟨other.kind, other.fields,
      other.byteLength + optionsLength other.mobilityOptions, mhb.mobilityOptions ++ other.mobilityOptions⟩ :=
  addOptions_ok accepted

/-- The sum and the options are both right only if there is nothing to add. -/
theorem assigned_iff (measured : other.Measured) (accepted : ∀ op ∈ other.mobilityOptions, Accepts other.kind op)
    (assigned : mhb.assign other = .ok mhb') : mhb'.Measured ∧ mhb'.mobilityOptions = other.mobilityOptions ↔
      mhb.mobilityOptions = [] ∧ other.mobilityOptions = [] := by
  rw [assign_ok accepted] at assigned
  cases assigned
  unfold Measured at measured ⊢
  dsimp only
  rw [List.append_left_eq_self, optionsLength_append, measured]
  constructor
  · rintro ⟨length, empty⟩
    refine ⟨empty, (optionsLength_eq_zero accepted).mp ?_⟩
    rw [empty, optionsLength_nil] at length
    omega
  · rintro ⟨empty, none⟩
    rw [empty, none, optionsLength_nil]
    exact ⟨rfl, rfl⟩

/-! ### The messages of one class -/

/-- What is done with the messages of a class, which are numbered as they are created -/
inductive Op (α : Type) where
  | create (fields : α)
  | addOption (i : Nat) (op : MobilityOptionBase)
  | dup (i : Nat)
  | assign (i j : Nat)

/-- A message is not assigned to itself, as the generated class returns at once then. -/
def step (kind : MIPv6HeaderType) (ms : List (MobilityHeaderBase α)) :
    Op α → Exec (List (MobilityHeaderBase α))
  | .create fields => .ok (ms ++ [create kind fields])
  | .addOption i op => do
      let mhb ← Exec.deref .nullDeref ms[i]?
      let mhb ← mhb.addOption op
      return ms.set i mhb
  | .dup i => do
      let mhb ← Exec.deref .nullDeref ms[i]?
      let copy ← mhb.dup
      return ms ++ [copy]
  | .assign i j => do
      let mhb ← Exec.deref .nullDeref ms[i]?
      let other ← Exec.deref .nullDeref ms[j]?
      if i = j then return ms
      else do
        let mhb ← mhb.assign other
        return ms.set i mhb

/-- A copy that an operation makes has the options of the original. -/
def Copies (ms ms' : List (MobilityHeaderBase α)) : Op α → Prop
  | .dup i => ms'.getLast?.map (·.mobilityOptions) = ms[i]?.map (·.mobilityOptions)
  | .assign i j => ms'[i]?.map (·.mobilityOptions) = ms[j]?.map (·.mobilityOptions)
  | _ => True

/-- The operation leaves all lengths right and copies the options. -/
def Keeps (kind : MIPv6HeaderType) (ms : List (MobilityHeaderBase α)) (e : Op α) : Prop :=
  ∀ ms', step kind ms e = .ok ms' → (∀ mhb ∈ ms', mhb.Measured) ∧ Copies ms ms' e

/-- No message has options that is copied or that another one is assigned to. -/
def Plain (ms : List (MobilityHeaderBase α)) : Op α → Prop
  | .dup i => ∀ mhb, ms[i]? = some mhb → mhb.mobilityOptions = []
  | .assign i j => i = j ∨
      (∀ mhb, ms[i]? = some mhb → mhb.mobilityOptions = []) ∧ ∀ other, ms[j]? = some other → other.mobilityOptions = []
  | _ => True

/-- The messages are right, with options that were accepted. -/
def Right (ms : List (MobilityHeaderBase α)) : Prop :=
  ∀ mhb ∈ ms, mhb.Measured ∧ ∀ op ∈ mhb.mobilityOptions, Accepts mhb.kind op

variable {ms ms' : List (MobilityHeaderBase α)} {e : Op α} {i j : Nat}

theorem Measured.addOption (measured : mhb.Measured) (adds : mhb.addOption op = .ok mhb') : mhb'.Measured := by
  obtain ⟨-, rfl⟩ := addOption_cases adds
  unfold Measured at measured ⊢
  dsimp only
  rw [measured, optionsLength_append, optionsLength_cons, optionsLength_nil]
  omega

theorem measured_append (right : Right ms) : (∀ mhb ∈ ms ++ [mhb'], mhb.Measured) ↔ mhb'.Measured := by
  constructor
  · exact fun all => all mhb' (List.mem_append_right ms List.mem_cons_self)
  · intro last mhb inside
    rcases List.mem_append.mp inside with inside | inside
    · exact (right mhb inside).1
    · exact List.mem_singleton.mp inside ▸ last

theorem measured_set (right : Right ms) (located : ms[i]? = some mhb) :
    (∀ m ∈ ms.set i mhb', m.Measured) ↔ mhb'.Measured := by
  have bound := (List.getElem?_eq_some_iff.mp located).1
  constructor
  · exact fun all => all mhb' (List.mem_of_getElem? (List.getElem?_set_self bound))
  · intro changed m inside
    rcases List.mem_or_eq_of_mem_set inside with inside | rfl
    · exact (right m inside).1
    · exact changed

theorem right_of_getElem? (right : Right ms) (located : ms[i]? = some mhb) :
    mhb.Measured ∧ ∀ op ∈ mhb.mobilityOptions, Accepts mhb.kind op :=
  right mhb (List.mem_of_getElem? located)

/-- One operation leaves everything right exactly if it has no options to copy. -/
theorem keeps_iff (right : Right ms) (steps : step kind ms e = .ok ms') : Keeps kind ms e ↔ Plain ms e := by
  have only (P : List (MobilityHeaderBase α) → Prop) : (∀ ms', step kind ms e = .ok ms' → P ms') ↔ P ms' := by
    constructor
    · exact fun all => all ms' steps
    · intro holds last same
      cases steps.symm.trans same
      exact holds
  unfold Keeps
  rw [only]
  cases e with
  | create fields =>
      cases steps
      exact iff_of_true ⟨(measured_append right).mpr rfl, trivial⟩ trivial
  | addOption i op =>
      obtain ⟨mhb, located, rest⟩ := bind_eq_ok.mp steps
      obtain ⟨mhb', adds, rest⟩ := bind_eq_ok.mp rest
      rw [deref_eq_ok] at located
      cases rest
      have measured := (right_of_getElem? right located).1.addOption adds
      exact iff_of_true ⟨(measured_set right located).mpr measured, trivial⟩ trivial
  | dup i =>
      obtain ⟨mhb, located, rest⟩ := bind_eq_ok.mp steps
      obtain ⟨copy, copies, rest⟩ := bind_eq_ok.mp rest
      rw [deref_eq_ok] at located
      cases rest
      obtain ⟨measured, accepted⟩ := right_of_getElem? right located
      have exactly := assigned_iff measured accepted copies
      rw [measured_append right]
      simp only [Copies, Plain, located, List.getLast?_append, List.getLast?_singleton, Option.some_or,
        Option.map_some, Option.some.injEq, forall_eq']
      exact exactly.trans (and_iff_right rfl)
  | assign i j =>
      obtain ⟨mhb, located, rest⟩ := bind_eq_ok.mp steps
      obtain ⟨other, located', rest⟩ := bind_eq_ok.mp rest
      rw [deref_eq_ok] at located located'
      split at rest
      · rename_i self
        cases rest
        subst self
        exact iff_of_true ⟨fun mhb inside => (right mhb inside).1, rfl⟩ (.inl rfl)
      · rename_i apart
        obtain ⟨mhb', assigns, rest⟩ := bind_eq_ok.mp rest
        cases rest
        obtain ⟨measured, accepted⟩ := right_of_getElem? right located'
        have exactly := assigned_iff measured accepted assigns
        rw [measured_set right located]
        simp only [Copies, Plain, located, located', apart, List.getElem?_set_self (List.getElem?_eq_some_iff.mp located).1,
          Option.map_some, Option.some.injEq, forall_eq', false_or]
        exact exactly

theorem right_append (right : Right ms) (measured : mhb'.Measured)
    (accepted : ∀ op ∈ mhb'.mobilityOptions, Accepts mhb'.kind op) : Right (ms ++ [mhb']) := by
  intro mhb inside
  rcases List.mem_append.mp inside with inside | inside
  · exact right mhb inside
  · cases List.mem_singleton.mp inside
    exact ⟨measured, accepted⟩

theorem right_set (right : Right ms) (measured : mhb'.Measured)
    (accepted : ∀ op ∈ mhb'.mobilityOptions, Accepts mhb'.kind op) : Right (ms.set i mhb') := by
  intro mhb inside
  rcases List.mem_or_eq_of_mem_set inside with inside | rfl
  · exact right mhb inside
  · exact ⟨measured, accepted⟩

theorem assigned_right (right : Right ms) (located : ms[i]? = some other)
    (assigned : mhb.assign other = .ok mhb') (empty : mhb.mobilityOptions = []) (none : other.mobilityOptions = []) :
    mhb'.Measured ∧ ∀ op ∈ mhb'.mobilityOptions, Accepts mhb'.kind op := by
  obtain ⟨measured, accepted⟩ := right_of_getElem? right located
  obtain ⟨measured', same⟩ := (assigned_iff measured accepted assigned).mpr ⟨empty, none⟩
  refine ⟨measured', ?_⟩
  rw [same, none]
  exact fun _ inside => absurd inside List.not_mem_nil

theorem Right.step (right : Right ms) (plain : Plain ms e) (steps : step kind ms e = .ok ms') : Right ms' := by
  cases e with
  | create fields =>
      cases steps
      exact right_append right rfl fun _ inside => absurd inside List.not_mem_nil
  | addOption i op =>
      obtain ⟨mhb, located, rest⟩ := bind_eq_ok.mp steps
      obtain ⟨mhb', adds, rest⟩ := bind_eq_ok.mp rest
      rw [deref_eq_ok] at located
      cases rest
      obtain ⟨measured, accepted⟩ := right_of_getElem? right located
      refine right_set right (measured.addOption adds) ?_
      obtain ⟨accepts, rfl⟩ := addOption_cases adds
      intro op' inside
      rcases List.mem_append.mp inside with inside | inside
      · exact accepted op' inside
      · exact List.mem_singleton.mp inside ▸ accepts
  | dup i =>
      obtain ⟨mhb, located, rest⟩ := bind_eq_ok.mp steps
      obtain ⟨copy, copies, rest⟩ := bind_eq_ok.mp rest
      rw [deref_eq_ok] at located
      cases rest
      obtain ⟨measured, accepted⟩ := assigned_right right located copies rfl (plain mhb located)
      exact right_append right measured accepted
  | assign i j =>
      obtain ⟨mhb, located, rest⟩ := bind_eq_ok.mp steps
      obtain ⟨other, located', rest⟩ := bind_eq_ok.mp rest
      rw [deref_eq_ok] at located located'
      split at rest
      · cases rest
        exact right
      · rename_i apart
        obtain ⟨mhb', assigns, rest⟩ := bind_eq_ok.mp rest
        cases rest
        obtain ⟨empty, none⟩ := plain.resolve_left apart
        obtain ⟨measured, accepted⟩ := assigned_right right located' assigns (empty mhb located) (none other located')
        exact right_set right measured accepted

/-- Lengths and options stay right in a run exactly as long as only messages without options are copied. -/
theorem keeps_iff_plain {es : List (Op α)} : Runs (MobilityHeaderBase.step kind) (Keeps kind) [] es ms ↔
    Runs (MobilityHeaderBase.step kind) Plain [] es ms :=
  Runs.congr Right (fun _ _ _ => keeps_iff) (fun _ _ _ => Right.step)
    fun _ inside => absurd inside List.not_mem_nil

/-- Nonce indices are added to a Binding Update after it was copied. -/
def exampleOps : List (Op BU) :=
  [.create ⟨true, false, true, false, 1, 60, none, none, false⟩, .dup 0, .addOption 1 (.create (.ni ⟨3, 4⟩)), .assign 0 0]

theorem keeps_iff_plain_example : ∃ ms, run (step .bu) [] exampleOps = .ok ms ∧
    Runs (MobilityHeaderBase.step .bu) (Keeps .bu) [] exampleOps ms := by
  refine ⟨_, rfl, keeps_iff_plain.mpr ?_⟩
  refine .cons trivial rfl (.cons ?_ rfl (.cons trivial rfl (.cons (.inl rfl) rfl (.nil _))))
  intro mhb located
  cases located
  rfl

/-- What is seen of the messages -/
def exampleLengths (ops : List (Op BU)) : Exec (List (Nat × List (BitVec 32) × Bool)) :=
  (run (step .bu) [] ops).map (·.map fun mhb => (mhb.byteLength, mhb.mobilityOptions.map (·.byteLength), mhb.Measured))

/-- The copy of an update with nonce indices is 24 bytes long with options of 6, and has them twice when the
update is assigned to it. -/
theorem keeps_fails :
    exampleLengths (exampleOps ++ [.dup 1]) = .ok [(12, [], true), (18, [6], true), (24, [6], false)] ∧
    exampleLengths (exampleOps ++ [.dup 1, .assign 2 1]) = .ok [(12, [], true), (18, [6], true), (24, [6, 6], true)] := by
  decide +kernel

end MobilityHeaderBase

end IPv6Suite
