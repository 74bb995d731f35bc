import IPv6Suite.Lib.Exec

namespace Lib

variable {σ ε : Type}

/-- One event after the other, until a fault ends the run. -/
def run (step : σ → ε → Exec σ) : σ → List ε → Exec σ
  | s, [] => .ok s
  | s, e :: rest => step s e >>= fun s' => run step s' rest

@[simp] theorem run_nil (step : σ → ε → Exec σ) (s : σ) : run step s [] = .ok s := rfl

@[simp] theorem run_cons (step : σ → ε → Exec σ) (s : σ) (e : ε) (rest : List ε) :
    run step s (e :: rest) = step s e >>= fun s' => run step s' rest := rfl

theorem run_append (step : σ → ε → Exec σ) (s : σ) (front back : List ε) :
    run step s (front ++ back) = run step s front >>= fun s' => run step s' back := by
  induction front generalizing s with
  | nil => rfl
  | cons e rest ih =>
      rw [List.cons_append, run_cons, run_cons]
      cases step s e with
      | error fault => rfl
      | ok next => exact ih next

/-- What is seen of a machine whose calls give something back: its replies up to a fault. -/
def responses {ρ : Type} (call : σ → ε → Exec (ρ × σ)) : σ → List ε → List (Exec ρ)
  | _, [] => []
  | s, e :: rest =>
      match call s e with
      | .ok (reply, s') => .ok reply :: responses call s' rest
      | .error fault => [.error fault]

theorem responses_cons {ρ : Type} {call : σ → ε → Exec (ρ × σ)} {s s' : σ} {e : ε} {reply : ρ}
    (called : call s e = .ok (reply, s')) (rest : List ε) :
    responses call s (e :: rest) = .ok reply :: responses call s' rest := by
  conv_lhs => unfold responses
  rw [called]

/-- A run each of whose events meets `ok` in the state it is taken from. -/
inductive Runs (step : σ → ε → Exec σ) (ok : σ → ε → Prop) : σ → List ε → σ → Prop
  | nil (s : σ) : Runs step ok s [] s
  | cons {s s' t : σ} {e : ε} {rest : List ε} (meets : ok s e) (steps : step s e = .ok s')
      (runs : Runs step ok s' rest t) : Runs step ok s (e :: rest) t

namespace Runs

variable {step : σ → ε → Exec σ} {ok ok' : σ → ε → Prop} {s t : σ} {es : List ε}

/-- What every step preserves holds at the end of every run. -/
theorem invariant (inv : σ → Prop) (preserved : ∀ s e s', inv s → ok s e → step s e = .ok s' → inv s')
    (runs : Runs step ok s es t) (start : inv s) : inv t := by
  induction runs with
  | nil s => exact start
  | cons meets steps _ ih => exact ih (preserved _ _ _ start meets steps)

theorem run_eq (runs : Runs step ok s es t) : run step s es = .ok t := by
  induction runs with
  | nil s => rfl
  | cons meets steps _ ih => rw [run_cons, steps, ok_bind, ih]

theorem of_run (runs : run step s es = .ok t) : Runs step (fun _ _ => True) s es t := by
  induction es generalizing s with
  | nil =>
      cases runs
      exact .nil _
  | cons e rest ih =>
      rw [run_cons] at runs
      obtain ⟨next, steps, rest⟩ := bind_eq_ok.mp runs
      exact .cons trivial steps (ih rest)

/-- A run that checks each event before it is taken -/
theorem of_checked [∀ s e, Decidable (ok s e)]
    (runs : run (fun s e => Exec.assert (ok s e) >>= fun _ => step s e) s es = .ok t) : Runs step ok s es t := by
  induction es generalizing s with
  | nil =>
      cases runs
      exact .nil _
  | cons e rest ih =>
      rw [run_cons] at runs
      obtain ⟨next, steps, rest⟩ := bind_eq_ok.mp runs
      obtain ⟨_, meets, steps⟩ := bind_eq_ok.mp steps
      exact .cons ((assert_eq_ok _ _).mp meets) steps (ih rest)

theorem mono (weaker : ∀ s e, ok s e → ok' s e) (runs : Runs step ok s es t) : Runs step ok' s es t := by
  induction runs with
  | nil s => exact .nil s
  | cons meets steps _ ih => exact .cons (weaker _ _ meets) steps ih

/-- Two conditions that agree wherever an invariant holds allow the same runs, if one of them keeps it. -/
theorem congr (inv : σ → Prop) (same : ∀ s e s', inv s → step s e = .ok s' → (ok s e ↔ ok' s e))
    (preserved : ∀ s e s', inv s → ok' s e → step s e = .ok s' → inv s') (start : inv s) :
    Runs step ok s es t ↔ Runs step ok' s es t := by
  constructor
  · intro runs
    induction runs with
    | nil s => exact .nil s
    | cons meets steps _ ih =>
        have meets' := (same _ _ _ start steps).mp meets
        exact .cons meets' steps (ih (preserved _ _ _ start meets' steps))
  · intro runs
    induction runs with
    | nil s => exact .nil s
    | cons meets' steps _ ih =>
        exact .cons ((same _ _ _ start steps).mpr meets') steps (ih (preserved _ _ _ start meets' steps))

theorem append {u : σ} {fs : List ε} (front : Runs step ok s es t) (back : Runs step ok t fs u) :
    Runs step ok s (es ++ fs) u := by
  induction front with
  | nil s => exact back
  | cons meets steps _ ih => exact .cons meets steps (ih back)

/-- When a step keeps `inv`, and `good` with it exactly if the event meets `cond`, then `good` holds in every
state of a run exactly if every event of the run meets `cond`. -/
theorem always_iff {inv good : σ → Prop} {cond : σ → ε → Prop}
    (preserved : ∀ s e s', inv s → ok s e → step s e = .ok s' → inv s')
    (exact : ∀ s e s', inv s → good s → ok s e → step s e = .ok s' → (good s' ↔ cond s e))
    (runs : Runs step ok s es t) (start : inv s) (first : good s) :
    (∀ front back u, es = front ++ back → Runs step ok s front u → good u) ↔
      Runs step (fun s e => ok s e ∧ cond s e) s es t := by
  induction runs with
  | nil s =>
      constructor
      · intro _
        exact .nil s
      · intro _ front back u split reaches
        obtain ⟨rfl, rfl⟩ := List.append_eq_nil_iff.mp split.symm
        cases reaches
        exact first
  | @cons s next t e rest meets steps runs ih =>
      have kept := preserved s e next start meets steps
      have after := exact s e next start first meets steps
      constructor
      · intro always
        have good : good next := always [e] rest next rfl (.cons meets steps (.nil next))
        refine .cons ⟨meets, after.mp good⟩ steps ((ih kept good).mp ?_)
        intro front back u split reaches
        exact always (e :: front) back u (by rw [split, List.cons_append]) (.cons meets steps reaches)
      · intro checked front back u split reaches
        cases checked with
        | cons both same later =>
            cases steps.symm.trans same
            cases reaches with
            | nil => exact first
            | cons _ same' reaches =>
                obtain ⟨rfl, rfl⟩ := List.cons.inj split
                cases steps.symm.trans same'
                exact (ih kept (after.mpr both.2)).mpr later _ _ _ rfl reaches

end Runs

end Lib
