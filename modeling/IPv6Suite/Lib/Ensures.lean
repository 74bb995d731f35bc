import Mathlib.Tactic.Common

namespace Lib

variable {ε α β : Type}

/-- What holds of the value a computation returns, and of the fault it ends with if it fails. -/
def Ensures (faults : ε → Prop) (post : α → Prop) : Except ε α → Prop
  | .ok value => post value
  | .error fault => faults fault

namespace Ensures

variable {faults faults' : ε → Prop} {post post' : α → Prop} {r : Except ε α}

@[simp] theorem ok_iff (value : α) : Ensures faults post (.ok value) ↔ post value := Iff.rfl

@[simp] theorem error_iff (fault : ε) :
    Ensures faults post (.error fault : Except ε α) ↔ faults fault := Iff.rfl

@[simp] theorem pure_iff (value : α) :
    Ensures faults post (pure value : Except ε α) ↔ post value := Iff.rfl

variable {value : α}

theorem ok (holds : post value) : Ensures faults post (.ok value) := holds

theorem of_ok (ensures : Ensures faults post r) (returns : r = .ok value) : post value := by
  rw [returns] at ensures
  exact ensures

theorem of_error {fault : ε} (ensures : Ensures faults post r) (fails : r = .error fault) : faults fault := by
  rw [fails] at ensures
  exact ensures

theorem mono (ensures : Ensures faults post r) (weaker : ∀ value, post value → post' value)
    (fewer : ∀ fault, faults fault → faults' fault) : Ensures faults' post' r := by
  cases r with
  | ok value => exact weaker value ensures
  | error fault => exact fewer fault ensures

theorem imp (ensures : Ensures faults post r) (weaker : ∀ value, post value → post' value) :
    Ensures faults post' r := ensures.mono weaker fun _ => id

theorem fewer (ensures : Ensures faults post r) (fewer : ∀ fault, faults fault → faults' fault) :
    Ensures faults' post r := ensures.mono (fun _ => id) fewer

/-- Two results about one computation. -/
theorem and (ensures : Ensures faults post r) (also : Ensures faults' post' r) :
    Ensures faults (fun value => post value ∧ post' value) r := by
  cases r with
  | ok value => exact ⟨ensures, also⟩
  | error fault => exact ensures

variable {next : α → Except ε β} {after : β → Prop}

theorem bind (first : Ensures faults post r) (rest : ∀ value, post value → Ensures faults after (next value)) :
    Ensures faults after (r >>= next) := by
  cases r with
  | ok value => exact rest value first
  | error fault => exact first

theorem ok_bind (rest : Ensures faults after (next value)) : Ensures faults after (.ok value >>= next) := rest

theorem of_cases (ok : ∀ value, r = .ok value → post value)
    (error : ∀ fault, r = .error fault → faults fault) : Ensures faults post r := by
  cases r with
  | ok value => exact ok value rfl
  | error fault => exact error fault rfl

theorem returned (error : ∀ fault, r = .error fault → faults fault) :
    Ensures faults (fun value => r = .ok value) r := of_cases (fun _ => id) error

theorem map {f : α → β} (ensures : Ensures faults (fun value => after (f value)) r) :
    Ensures faults after (f <$> r) := by
  cases r with
  | ok value => exact ensures
  | error fault => exact ensures

theorem mapError {ε' : Type} {f : ε → ε'} {faults' : ε' → Prop}
    (ensures : Ensures (fun fault => faults' (f fault)) post r) : Ensures faults' post (r.mapError f) := by
  cases r with
  | ok value => exact ensures
  | error fault => exact ensures

theorem trivial {value : Except ε α} : Ensures (fun _ => True) (fun _ => True) value := by
  cases value <;> exact True.intro

theorem ite {p : Prop} [Decidable p] {s : Except ε α} (pos : p → Ensures faults post r)
    (neg : ¬ p → Ensures faults post s) : Ensures faults post (if p then r else s) := by
  by_cases holds : p
  · rw [if_pos holds]
    exact pos holds
  · rw [if_neg holds]
    exact neg holds

end Ensures

instance {faults : ε → Prop} {post : α → Prop} [DecidablePred faults] [DecidablePred post] (r : Except ε α) :
    Decidable (Ensures faults post r) :=
  match r with
  | .ok value => inferInstanceAs (Decidable (post value))
  | .error fault => inferInstanceAs (Decidable (faults fault))

/-- What holds of the value if one is returned. -/
abbrev OnReturn (post : α → Prop) (r : Except ε α) : Prop := Ensures (fun _ => True) post r

namespace OnReturn

variable {post : α → Prop} {r : Except ε α}

theorem of_ensures {faults : ε → Prop} (ensures : Ensures faults post r) : OnReturn post r :=
  ensures.mono (fun _ => id) fun _ _ => True.intro

theorem of_forall (holds : ∀ value, r = .ok value → post value) : OnReturn post r := by
  cases r with
  | ok value => exact holds value rfl
  | error fault => exact True.intro

theorem exists_of_not (broken : ¬ OnReturn post r) : ∃ value, r = .ok value ∧ ¬ post value := by
  cases r with
  | ok value => exact ⟨value, rfl, broken⟩
  | error fault => exact absurd True.intro broken

theorem fails (never : OnReturn (fun _ => False) r) : ∃ fault, r = .error fault := by
  cases r with
  | ok value => exact never.elim
  | error fault => exact ⟨fault, rfl⟩

end OnReturn

end Lib
