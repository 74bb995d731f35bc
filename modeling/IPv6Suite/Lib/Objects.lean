import IPv6Suite.Lib.Machine

namespace Lib

/-- A class with its constructor, calls and copies, and what its objects are to show after them -/
structure ObjectClass where
  Object : Type
  Ctor : Type
  Call : Type
  Values : Type
  create : Ctor → Exec Object
  call : Object → Call → Exec Object
  copy : Object → Exec Object
  assign : Object → Object → Exec Object
  created : Ctor → Values
  called : Values → Call → Values

namespace ObjectClass

variable {c : ObjectClass}

inductive Event (c : ObjectClass) where
  | create (args : c.Ctor)
  | call (i : Nat) (call : c.Call)
  | copy (i : Nat)
  | assign (i j : Nat)

/-- The objects, each with the values of the last calls on it -/
abbrev Store (c : ObjectClass) := List (c.Object × c.Values)

def step (objs : c.Store) : c.Event → Exec c.Store
  | .create args => do
      let object ← c.create args
      return objs ++ [(object, c.created args)]
  | .call i call => do
      let (object, values) ← Exec.deref .outOfBounds objs[i]?
      let object ← c.call object call
      return objs.set i (object, c.called values call)
  | .copy i => do
      let (object, values) ← Exec.deref .outOfBounds objs[i]?
      let object ← c.copy object
      return objs ++ [(object, values)]
  | .assign i j => if i = j then .ok objs else do
      let (object, _) ← Exec.deref .outOfBounds objs[i]?
      let (source, values) ← Exec.deref .outOfBounds objs[j]?
      let object ← c.assign object source
      return objs.set i (object, values)

/-- A condition on the arguments of the constructor and on the calls of objects -/
structure Condition (c : ObjectClass) where
  created : c.Ctor → Prop
  called : c.Object → c.Call → Prop

def Condition.Meets (condition : c.Condition) (objs : c.Store) : c.Event → Prop
  | .create args => condition.created args
  | .call i call => ∀ p ∈ objs[i]?, condition.called p.1 call
  | _ => True

/-- The objects of an event are there. -/
def Event.Known (objs : c.Store) : c.Event → Prop
  | .create _ => True
  | .call i _ => i < objs.length
  | .copy i => i < objs.length
  | .assign i j => i < objs.length ∧ j < objs.length

/-- What each function of a class keeps of an object and its values -/
structure Keeps (condition : c.Condition) (P : c.Object → c.Values → Prop) : Prop where
  create : ∀ {args object}, condition.created args → c.create args = .ok object → P object (c.created args)
  call : ∀ {object values call next}, P object values → condition.called object call →
    c.call object call = .ok next → P next (c.called values call)
  copy : ∀ {object values next}, P object values → c.copy object = .ok next → P next values
  assign : ∀ {object source old values next}, P object old → P source values →
    c.assign object source = .ok next → P next values

variable {condition : c.Condition} {P : c.Object → c.Values → Prop} {objs objs' : c.Store} {e : c.Event}

theorem Keeps.step (keeps : c.Keeps condition P) (kept : ∀ p ∈ objs, P p.1 p.2)
    (meets : condition.Meets objs e) (steps : c.step objs e = .ok objs') : ∀ p ∈ objs', P p.1 p.2 := by
  have listed {i : Nat} {p : c.Object × c.Values} (found : objs[i]? = some p) : P p.1 p.2 :=
    kept p (List.mem_of_getElem? found)
  cases e with
  | create args =>
      obtain ⟨object, creates, ends⟩ := bind_eq_ok.mp steps
      cases ends
      intro p member
      rcases List.mem_append.mp member with before | new
      · exact kept p before
      · cases List.mem_singleton.mp new
        exact keeps.create meets creates
  | call i call =>
      obtain ⟨⟨object, values⟩, found, steps⟩ := bind_eq_ok.mp steps
      obtain ⟨next, calls, ends⟩ := bind_eq_ok.mp steps
      cases ends
      have entry := (deref_eq_ok _ _ _).mp found
      have holds : P object values := listed entry
      intro p member
      rcases List.mem_or_eq_of_mem_set member with before | rfl
      · exact kept p before
      · exact keeps.call holds (meets _ entry) calls
  | copy i =>
      obtain ⟨⟨object, values⟩, found, steps⟩ := bind_eq_ok.mp steps
      obtain ⟨next, copies, ends⟩ := bind_eq_ok.mp steps
      cases ends
      have holds : P object values := listed ((deref_eq_ok _ _ _).mp found)
      intro p member
      rcases List.mem_append.mp member with before | new
      · exact kept p before
      · cases List.mem_singleton.mp new
        exact keeps.copy holds copies
  | assign i j =>
      unfold ObjectClass.step at steps
      dsimp only at steps
      split at steps
      · cases steps
        exact kept
      · obtain ⟨⟨object, old⟩, found, steps⟩ := bind_eq_ok.mp steps
        obtain ⟨⟨source, values⟩, source_found, steps⟩ := bind_eq_ok.mp steps
        obtain ⟨next, assigns, ends⟩ := bind_eq_ok.mp steps
        cases ends
        have holds : P object old := listed ((deref_eq_ok _ _ _).mp found)
        have source_holds : P source values := listed ((deref_eq_ok _ _ _).mp source_found)
        intro p member
        rcases List.mem_or_eq_of_mem_set member with before | rfl
        · exact kept p before
        · exact keeps.assign holds source_holds assigns

/-- What each function keeps holds of all objects after every run of them. -/
theorem Keeps.run {es : List c.Event} (keeps : c.Keeps condition P)
    (runs : Runs c.step condition.Meets [] es objs) : ∀ p ∈ objs, P p.1 p.2 :=
  runs.invariant (fun objs => ∀ p ∈ objs, P p.1 p.2) (fun _ _ _ => keeps.step) nofun

/-- The functions of a class do not fail on objects of which `P` holds. -/
structure Total (condition : c.Condition) (P : c.Object → Prop) : Prop where
  create : ∀ {args}, condition.created args → ∃ object, c.create args = .ok object
  call : ∀ {object call}, P object → condition.called object call → ∃ next, c.call object call = .ok next
  copy : ∀ {object}, P object → ∃ next, c.copy object = .ok next
  assign : ∀ {object source}, P object → P source → ∃ next, c.assign object source = .ok next

theorem Total.step {P : c.Object → Prop} (total : c.Total condition P) (kept : ∀ p ∈ objs, P p.1)
    (meets : condition.Meets objs e) (known : e.Known objs) : ∃ objs', c.step objs e = .ok objs' := by
  have found {i : Nat} (bound : i < objs.length) : ∃ p, objs[i]? = some p ∧ P p.1 :=
    ⟨objs[i], List.getElem?_eq_getElem bound, kept _ (List.getElem_mem bound)⟩
  cases e with
  | create args =>
      obtain ⟨object, creates⟩ := total.create meets
      simp only [ObjectClass.step, creates, ok_bind]
      exact ⟨_, rfl⟩
  | call i call =>
      obtain ⟨p, entry, holds⟩ := found known
      obtain ⟨next, calls⟩ := total.call holds (meets p entry)
      simp only [ObjectClass.step, entry, deref_some, calls, ok_bind]
      exact ⟨_, rfl⟩
  | copy i =>
      obtain ⟨p, entry, holds⟩ := found known
      obtain ⟨next, copies⟩ := total.copy holds
      simp only [ObjectClass.step, entry, deref_some, copies, ok_bind]
      exact ⟨_, rfl⟩
  | assign i j =>
      obtain ⟨p, entry, holds⟩ := found known.1
      obtain ⟨q, source, source_holds⟩ := found known.2
      obtain ⟨next, assigns⟩ := total.assign holds source_holds
      unfold ObjectClass.step
      dsimp only
      split
      · exact ⟨objs, rfl⟩
      · simp only [entry, source, deref_some, assigns, ok_bind]
        exact ⟨_, rfl⟩

/-- Under one condition on its arguments and calls each object shows the values of the last calls, under
another one it is as it should be, and under both no call on an object that is there fails. -/
structure Right (c : ObjectClass) (stores sizes : c.Condition) (Shows : c.Object → c.Values → Prop)
    (Sized : c.Object → Prop) : Prop where
  shows : ∀ es objs, Runs c.step stores.Meets [] es objs → ∀ p ∈ objs, Shows p.1 p.2
  sized : ∀ es objs, Runs c.step sizes.Meets [] es objs → ∀ p ∈ objs, Sized p.1
  next : ∀ es objs e, Runs c.step (fun objs e => stores.Meets objs e ∧ sizes.Meets objs e) [] es objs →
    stores.Meets objs e → e.Known objs → ∃ objs', c.step objs e = .ok objs'

theorem Keeps.right {stores sizes : c.Condition} {Shows : c.Object → c.Values → Prop} {Sized : c.Object → Prop}
    (shows : c.Keeps stores Shows) (sized : c.Keeps sizes fun object _ => Sized object)
    (total : c.Total stores Sized) : c.Right stores sizes Shows Sized where
  shows _ _ runs := shows.run runs
  sized _ _ runs := sized.run runs
  next _ _ _ runs meets known := total.step (sized.run (runs.mono fun _ _ => And.right)) meets known

end ObjectClass

end Lib
